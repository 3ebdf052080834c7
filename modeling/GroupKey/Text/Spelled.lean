/-!
Values spelled out on one line: a record as its name and its parts in braces, a sequence in
brackets. Items are separated by a comma and a space.
-/

namespace GroupKey.Spelled

def comma : List Char := [',', ' ']

def part (name : String) (value : List Char) : List Char := name.toList ++ [':', ' '] ++ value

def record (name : String) (parts : List (List Char)) : List Char :=
  name.toList ++ [' ', '\x7b', ' '] ++ comma.intercalate parts ++ [' ', '\x7d']

def sequence (items : List (List Char)) : List Char := '[' :: comma.intercalate items ++ [']']

end GroupKey.Spelled
