import ApiStencil.Text.Case

/-!
# Generated names

The names of the enums generated for properties and of the groups of endpoints generated for paths.

## Main definitions

* `capitalize` - a name with its first character in upper case.
* `nestedEnumName` - the name of the enum of a property.
* `groupName` - the name of the endpoint group of a path.
-/

namespace ApiStencil

/-- A name with its first character in upper case. -/
def capitalize (name : String) : String :=
  String.ofList (Text.capitalizeFirst name.toList)

/-- The name of the enum of a property: the capitalized schema name, then the capitalized property
name. -/
def nestedEnumName (schema property : String) : String :=
  capitalize schema ++ capitalize property

namespace GroupName

/-- The name between the braces of a segment that stands for a parameter. -/
def parameter? (segment : List Char) : Option (List Char) :=
  match segment with
  | '\x7b' :: rest => ['\x7d'].isSuffixOf? rest
  | _ => none

/-- A word of a parameter name: capitalized, with `ID` for the word `Id`. -/
def word (letters : List Char) : List Char :=
  let capitalized := Text.capitalizeFirst letters
  if capitalized = ['I', 'd'] then ['I', 'D'] else capitalized

/-- The words of a parameter name, which underscores separate, without the underscores. -/
def words (name : List Char) : List Char :=
  (name.splitOn '_').flatMap word

/-- What a segment of a path adds to the name. -/
def segment (letters : List Char) : List Char :=
  match parameter? letters with
  | some name => ['B', 'y'] ++ words name
  | none => Text.capitalizeFirst letters

/-- The name of a path, given by its characters. -/
def ofPath (path : List Char) : List Char :=
  (path.splitOn '/').flatMap segment

end GroupName

/-- The name of the endpoint group of a raw path: its segments, each capitalized, where a parameter
gives `By` and its words. -/
def groupName (path : String) : String :=
  String.ofList (GroupName.ofPath path.toList)

end ApiStencil
