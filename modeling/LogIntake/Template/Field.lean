/-!
# Fields of a log line

* `Field`: what a template can capture.
* `Field.name`: the written form of a field.
* `Field.keywords`: the fields that are written as one word.
-/

namespace LogIntake

/-- A part of a log line that a template captures under a name. -/
inductive Field where
  | timestamp
  | logger
  | level
  | thread
  | className
  | file
  | line
  | method
  | relativeTime
  | message
  | ndc
  | prop (key : String)
deriving DecidableEq, Repr

/-- The written form of a field in a template. -/
def Field.name : Field → String
  | .timestamp => "TIMESTAMP"
  | .logger => "LOGGER"
  | .level => "LEVEL"
  | .thread => "THREAD"
  | .className => "CLASS"
  | .file => "FILE"
  | .line => "LINE"
  | .method => "METHOD"
  | .relativeTime => "RELATIVETIME"
  | .message => "MESSAGE"
  | .ndc => "NDC"
  | .prop key => "PROP(" ++ key ++ ")"

/-- The fields that are written as one word. No word among them begins with another. -/
def Field.keywords : List Field :=
  [.relativeTime, .timestamp, .message, .logger, .thread, .method, .level, .className, .file, .line,
    .ndc]

end LogIntake
