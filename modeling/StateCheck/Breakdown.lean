/-!
The ways in which a computation breaks off without a message of its own.
-/

namespace StateCheck

inductive Breakdown
  /-- A text that should spell a number, date or character does not, or a whole number has too many
  digits for a text. -/
  | unreadable
  /-- A value has a type that the operation does not take. -/
  | wrongType
  /-- Something other than a mapping was asked for a member. -/
  | notMapping
  /-- A mapping has no such member. -/
  | noMember
  /-- A sequence has no such place. -/
  | noPlace
  /-- A number is too large for its representation. -/
  | overflow
  /-- The bytes of a file are not UTF-8. -/
  | notUtf8
  | fileMissing
  | isDirectory
  | notDirectory
  | fileExists
  /-- The operating system refused for another reason. -/
  | system
  /-- A way that only a reader of documents knows, by its name. -/
  | other (name : String)
deriving DecidableEq

end StateCheck
