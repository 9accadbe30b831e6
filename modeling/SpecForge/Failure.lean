import SpecForge.Document.Display

/-!
# Failures

Why a document is refused or a command gives up, as causes; the wording of each cause is written
here once. An issue is a fault of one part of a document, with the path to that part.
-/

namespace SpecForge

/-- What is wrong with one part of a document. -/
inductive Problem where
  | missing
  | text
  | unreadText
  | truth
  | unreadTruth
  | whole
  | unreadWhole
  | number
  | list
  | sequence
  | table
  | record (name : String)
  | callStyle
deriving DecidableEq, Repr

/-- The wording of a problem. -/
def Problem.message : Problem → String
  | .missing => "Field required"
  | .text => "Input should be a valid string"
  | .unreadText =>
    "Input should be a valid string, unable to parse raw data as a unicode string"
  | .truth => "Input should be a valid boolean"
  | .unreadTruth => "Input should be a valid boolean, unable to interpret input"
  | .whole => "Input should be a valid integer"
  | .unreadWhole => "Input should be a valid integer, unable to parse string as an integer"
  | .number => "Input should be a valid number"
  | .list => "Input should be a valid list"
  | .sequence => "Input should be a valid tuple"
  | .table => "Input should be a valid dictionary"
  | .record name => "Input should be a valid dictionary or instance of " ++ name
  | .callStyle => "Input should be 'sync' or 'async'"

/-- A problem and the path to the part that has it. -/
structure Issue where
  path : List String
  problem : Problem
deriving DecidableEq, Repr

/-- The path with dots between its steps. -/
def Issue.place (i : Issue) : String := ".".intercalate i.path

/-- The path and the problem; the document itself is called the root. -/
def Issue.message (i : Issue) : String :=
  (if i.place.isEmpty then "<root>" else i.place) ++ ": " ++ i.problem.message

/-- The issue seen from one level above. -/
def Issue.within (step : String) (i : Issue) : Issue := ⟨step :: i.path, i.problem⟩

/-- What makes a specification, the configuration or a request unusable. -/
inductive SpecFault where
  | noFile (what path : String)
  | unreadable (file reason : String)
  | notObject (file : String)
  | schemaKind
  | apiShape
  | apiTitle
  | apiVersion
  | parameterName
  | tokensShape
  | tokenGroup (name : String)
  | tokenValue (entry : String)
  | repeatedProperty (name model : String)
  | repeatedOperation (id : String)
  | platform (name : String)
  | typeName (name platform : String)
  | invalid (label : String) (issue : Issue)
  | noConfig
  | configUnreadable (reason : String) (line : Nat)
  | configInvalid (issue : Issue)
  | noPlatforms
  | noSource (key : String)
  | noSchemas (directory : String)
  | unknownPlatforms (names : String) (known : List String)
  | nothingNamed

/-- The wording of a fault. -/
def SpecFault.message : SpecFault → String
  | .noFile what path => what ++ " file not found: " ++ path
  | .unreadable file reason => "Could not parse " ++ file ++ ": " ++ reason
  | .notObject file => file ++ " must contain an object at the top level"
  | .schemaKind => "Only object schemas are supported for model generation"
  | .apiShape => "OpenAPI document must be a mapping"
  | .apiTitle => "OpenAPI document is missing info.title"
  | .apiVersion => "OpenAPI document is missing info.version"
  | .parameterName => "OpenAPI parameter is missing 'name'"
  | .tokensShape => "Design tokens document must be a JSON object"
  | .tokenGroup name => "Token group '" ++ name ++ "' must be an object"
  | .tokenValue entry => "Token entry is missing 'value': " ++ entry
  | .repeatedProperty name model => "Duplicate property '" ++ name ++ "' in model " ++ model
  | .repeatedOperation id => "Duplicate operationId '" ++ id ++ "'"
  | .platform name => "Unknown platform: " ++ name
  | .typeName name target => "No " ++ target ++ " mapping for type '" ++ name ++ "'"
  | .invalid label issue => "Invalid " ++ label ++ " spec: " ++ issue.message
  | .noConfig => "cuppa.config.json not found. Run `cuppa init` first."
  | .configUnreadable reason line =>
    "Could not parse cuppa.config.json: " ++ reason ++ " (line " ++ toString line ++ ")"
  | .configInvalid issue => "Invalid cuppa.config.json: " ++ issue.message
  | .noPlatforms =>
    "No target platforms. Pass --platform or list platforms in cuppa.config.json"
  | .noSource key =>
    "No source file specified. Use --from option or configure generation." ++ key ++
      ".source in cuppa.config.json"
  | .noSchemas path => "No JSON schema files found in " ++ path
  | .unknownPlatforms names known =>
    "Unknown platform(s): " ++ names ++ ". Choose from " ++ ", ".intercalate known
  | .nothingNamed => "Either provide a component name or use --from option"

/-- Why no result is given. Besides the faults that are reported in words there are those of a
value that does not admit what is asked of it. -/
inductive Failure where
  /-- The document, the configuration or the request is at fault. -/
  | spec (fault : SpecFault)
  /-- Nothing is generated for this kind on this platform. -/
  | unsupported (kind platform : String)
  /-- Nothing is generated for this kind on any of these platforms. -/
  | noGenerator (kind : String) (platforms : List String)
  /-- The directory of a new project is taken. -/
  | taken (directory : String)
  /-- A part of the normalized representation is at fault. -/
  | invalid (issue : Issue)
  /-- A text that looks like a number cannot be read as one. -/
  | unreadNumber
  /-- A number is asked of a text in which nothing is written. -/
  | emptyNumeral
  /-- A part is asked of a value that has no parts of that kind. -/
  | noParts
  /-- A value does not fit the operation. -/
  | unfit
  /-- A part that must be there is not. -/
  | absent
  /-- A number is too large. -/
  | overflow
  /-- A whole number that is to be spelled has too many digits. -/
  | unspellable
  /-- Values lie too deep in each other. -/
  | depth
  /-- A text that is to be written has one half of a surrogate pair without the other. -/
  | unencodable
  /-- A directory stands where a file is read or written. -/
  | directory (path : String)
  /-- A file stands where a directory is made. -/
  | occupied (path : String)
  /-- A file stands in the middle of a path. -/
  | throughFile (path : String)
  /-- A path or one of its steps is longer than the system allows. -/
  | longName (path : String)
  /-- A path holds the character that ends a text for the system. -/
  | nullInPath (path : String)
  /-- A tag in a text with markup closes a style that is not open. -/
  | unopened (tag : String)
  /-- The parameters of a tag are no literal. -/
  | unreadParameters (text : String)

/-- The wording of a failure. -/
def Failure.message : Failure → String
  | .spec fault => fault.message
  | .unsupported kind target =>
    "Platform " ++ target ++ " not yet supported for " ++ kind ++ " generation"
  | .noGenerator kind platforms =>
    "No " ++ kind ++ " generator for platform(s): " ++ ", ".intercalate platforms
  | .taken name => "Directory " ++ name ++ " already exists and is not empty"
  | .invalid issue => issue.place ++ ": " ++ issue.problem.message
  | .unreadNumber => "The text is no number"
  | .emptyNumeral => "The text is empty"
  | .noParts => "The value has no such parts"
  | .unfit => "The value does not fit"
  | .absent => "The part is missing"
  | .overflow => "The number is too large"
  | .unspellable => "The number has too many digits"
  | .depth => "There are too many levels"
  | .unencodable => "The text cannot be encoded"
  | .directory path => "[Errno 21] Is a directory: " ++ Text.shown path
  | .occupied path => "[Errno 17] File exists: " ++ Text.shown path
  | .throughFile path => "[Errno 20] Not a directory: " ++ Text.shown path
  | .longName path => "[Errno 36] File name too long: " ++ Text.shown path
  | .nullInPath path => "The path " ++ Text.shown path ++ " holds a null character"
  | .unopened tag => "The tag [" ++ tag ++ "] closes no open style"
  | .unreadParameters text => "The parameters " ++ Text.shown text ++ " are no literal"

/-- A result, or the reason why there is none. -/
abbrev Outcome (α : Type) := Except Failure α

end SpecForge
