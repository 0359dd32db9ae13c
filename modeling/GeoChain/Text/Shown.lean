import GeoChain.Text.Assigned
import GeoChain.Text.Mark

/-!
# Text as it is shown

In a message about settings a text stands between quotes. Quotes and backslashes in it are escaped,
and so is every character that leaves no mark of its own: controls, format characters, blanks other
than the space, characters for private use or not assigned, characters that are ignored where they
are not known, and those that extend the character before them.
A record is shown with its name and its fields; two dots say that it has more fields than those.
-/

namespace GeoChain

namespace Text

/-- Controls, format characters, blanks, characters for private use, and letters that only fill a
place, beyond ASCII. -/
def unseenCharacters : Charset := Charset.ofText "
80-a0 ad 600-605 61c 6dd 70f 890-891 8e2 115f-1160 1680 180e 2000-200b 200d-200f 2028-202f
205f-2064 2066-206f 3000 3164 e000-f8ff feff ffa0 fff9-fffb 110bd 110cd 13430-1343f 1bca0-1bca3
1d173-1d17a e0001 f0000-ffffd 100000-10fffd"

/-- Whether a character leaves no mark of its own. -/
def isUnseen (c : Char) : Bool :=
  if c.toNat < 0x80 then c < ' ' || c = '\x7f'
  else unseenCharacters.has c || !isAssigned c || isExtender c

/-- A character of a quoted text. -/
def shownChar (c : Char) : List Char :=
  if c = '\x00' then ['\\', '0']
  else if c = '\t' then ['\\', 't']
  else if c = '\n' then ['\\', 'n']
  else if c = '\r' then ['\\', 'r']
  else if c = '"' then ['\\', '"']
  else if c = '\\' then ['\\', '\\']
  else if isUnseen c then ['\\', 'u', '\x7b'] ++ Nat.toDigits 16 c.toNat ++ ['\x7d']
  else [c]

def shown (text : String) : String :=
  String.ofList ('"' :: text.toList.flatMap shownChar ++ ['"'])

def shownOption : Option String → String
  | some text => "Some(" ++ shown text ++ ")"
  | none => "None"

def shownList (texts : List String) : String := "[" ++ ", ".intercalate (texts.map shown) ++ "]"

/-- A record with the fields that are shown; `more` says that it has others. -/
def shownRecord (name : String) (fields : List (String × String)) (more : Bool) : String :=
  let parts := fields.map (fun (field, value) => field ++ ": " ++ value) ++
    if more then [".."] else []
  name ++ " \x7b " ++ ", ".intercalate parts ++ " \x7d"

end Text

end GeoChain
