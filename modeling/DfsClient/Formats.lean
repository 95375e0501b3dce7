import DfsClient.Reply
import DfsClient.Toml.Value
import DfsClient.Url.Basic

/-! What the client leaves to others: reading documents and URLs, and writing the values of a
document. Nothing is known of them but the kind of their answers. -/

namespace DfsClient

class Formats where
  /-- The entries of a document, in the order in which they are gone through. -/
  document? : String → Option Toml.Entries
  datetime : Toml.Datetime → String
  /-- A value on one line of its own, as an array shows the arrays and tables in it. -/
  inline : Toml.Value → Reply String
  /-- A URL, or the message about a text that is none. -/
  url : String → Except String Url

end DfsClient
