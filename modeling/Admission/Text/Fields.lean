/-!
# Structured text

Values describe themselves as a name with named parts in braces, a name with one part in
parentheses, or a bracketed list. A value without parts is its bare name.
-/

namespace Admission.Text

/-- Named parts, separated by commas. -/
def namedParts (parts : List (String × String)) : String :=
  ", ".intercalate (parts.map fun part => part.1 ++ ": " ++ part.2)

/-- A name with its named parts in braces. -/
def record (name : String) (parts : List (String × String)) : String :=
  name ++ " \x7b " ++ namedParts parts ++ " \x7d"

/-- A name with the named parts that it shows, and two dots for the ones that it keeps to itself. -/
def openRecord (name : String) (parts : List (String × String)) : String :=
  name ++ " \x7b " ++ namedParts parts ++ ", .. \x7d"

def bracketed (items : List String) : String :=
  "[" ++ ", ".intercalate items ++ "]"

def truthWord (value : Bool) : String :=
  if value then "true" else "false"

end Admission.Text
