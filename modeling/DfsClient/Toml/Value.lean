import DfsClient.Decimal.Shortest
import DfsClient.Toml.Datetime

/-! The values of a document. A table keeps its entries in the order in which
their keys were first written. -/

namespace DfsClient.Toml

inductive Value where
  | string (text : String)
  | integer (n : Int64)
  | float (number : Decimal.Binary64)
  | boolean (flag : Bool)
  | datetime (datetime : Datetime)
  | array (items : List Value)
  | table (entries : List (String × Value))

abbrev Entries := List (String × Value)

end DfsClient.Toml
