/-!
# Failures

The causes for which an operation on a host object fails, and the sentence that each cause is
reported with.
-/

namespace Hostlink

/-- Why an operation on files or streams failed. -/
inductive IoFault where
  | notFound
  | badDescriptor
  | notDirectory
  | isDirectory
  | alreadyExists
  | nameTooLong
  /-- Another failure that the operating system gives a number. -/
  | numbered (text : String) (code : Nat)
  /-- A path that holds a character no file name can hold. -/
  | zeroInName
  | brokenPipe
  /-- A failure of which only the category is known. -/
  | category (text : String)
  /-- A failure of which only the lack of a category is known. -/
  | uncategorized
  deriving DecidableEq, Repr

/-- The text of a failure with a number. -/
def numberedText (text : String) (code : Nat) : String := s!"{text} (os error {code})"

/-- The text of a failure on files or streams. -/
def IoFault.message : IoFault → String
  | .notFound => numberedText "No such file or directory" 2
  | .badDescriptor => numberedText "Bad file descriptor" 9
  | .notDirectory => numberedText "Not a directory" 20
  | .isDirectory => numberedText "Is a directory" 21
  | .alreadyExists => numberedText "File exists" 17
  | .nameTooLong => numberedText "File name too long" 36
  | .numbered text code => numberedText text code
  | .zeroInName => "file name contained an unexpected NUL byte"
  | .brokenPipe => "broken pipe"
  | .category text => text
  | .uncategorized => "uncategorized error"

/-- The categories of failures to take bytes, by their numbers. -/
def IoFault.categories : List (Nat × String) :=
  [(27, "file too large"), (28, "no storage space"), (122, "quota exceeded")]

/-- What is still known of a failure to take bytes when only its category has been kept. -/
def IoFault.blurred : IoFault → IoFault
  | .numbered _ code =>
    match categories.lookup code with
    | some text => .category text
    | none => .uncategorized
  | _ => .uncategorized

/-- Why an operation on a host object failed. -/
inductive HostError where
  | missingRequiredValue (name : String)
  /-- A value that exposes no native object of the wanted type. -/
  | unsupportedImplementation (native : String)
  | nullElement (index : Nat)
  | objectDisposed (typeName : String)
  | operationFailed (detail : String)
  | http (detail : String)
  | io (fault : IoFault)
  deriving DecidableEq, Repr

/-- The sentence that reports a failure. -/
def HostError.message : HostError → String
  | .missingRequiredValue name => s!"Missing required value: {name}"
  | .unsupportedImplementation native =>
    s!"Unsupported implementation: value was not produced by a wrapper over {native}"
  | .nullElement index => s!"Null element at index {index} in a non-nullable sequence"
  | .objectDisposed typeName => s!"Object disposed: {typeName}"
  | .operationFailed detail => s!"Operation failed: {detail}"
  | .http detail => s!"HTTP error: {detail}"
  | .io fault => s!"IO error: {fault.message}"

end Hostlink
