import DfsClient.Toml.Value

/-! Tables that stand for dates. Below the top level, a table whose first key is
the date key is the date that its text spells; what else the table holds is not
looked at. -/

namespace DfsClient.Toml

/-- The key that marks a table as the written form of a date. -/
def dateKey : String := "$__toml_private_datetime"

mutual

/-- A value with its marked tables as dates, if their texts are dates. -/
def Value.dated? : Value → Option Value
  | .table ((key, value) :: entries) =>
    if key = dateKey then
      match value with
      | .string text => (Datetime.ofText? text).map .datetime
      | _ => none
    else do
      let value ← value.dated?
      let entries ← datedEntries? entries
      some (.table ((key, value) :: entries))
  | .array items => (datedItems? items).map .array
  | value => some value

def datedItems? : List Value → Option (List Value)
  | [] => some []
  | item :: items => do
    let item ← item.dated?
    let items ← datedItems? items
    some (item :: items)

def datedEntries? : Entries → Option Entries
  | [] => some []
  | (key, value) :: entries => do
    let value ← value.dated?
    let entries ← datedEntries? entries
    some ((key, value) :: entries)

end

end DfsClient.Toml
