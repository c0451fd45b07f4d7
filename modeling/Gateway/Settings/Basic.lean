/-!
# Settings

What the bridge can be told from outside.
-/

namespace Gateway

/-- The settings of a bridge. -/
structure Settings where
  /-- What is logged. -/
  logFilter : String := "info"
  /-- Whether the log is coloured. -/
  logAnsi : Bool := false
  /-- The plugin whose modifier marks registered signals. -/
  pluginName : String := "rust"
  /-- The content type of responses that name none. -/
  defaultContentType : String := "text/html; charset=utf-8"
  deriving DecidableEq, Inhabited

end Gateway
