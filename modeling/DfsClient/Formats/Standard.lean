import DfsClient.Formats
import DfsClient.Toml.Document
import DfsClient.Toml.Printer
import DfsClient.Url.Reader

/-! The formats as programs: readers and a writer with which a client can run. The
writer panics over a run of quotes that it cannot count. -/

namespace DfsClient.Formats.Standard

def quoteOverflow : Payload := .text "attempt to add with overflow"

scoped instance formats : Formats where
  document? := Toml.document?
  datetime := Toml.Datetime.text
  inline value := if value.isWritable then .answered value.inline else .panicked quoteOverflow
  url text := (Url.parse text).mapError Url.Error.message

end DfsClient.Formats.Standard
