namespace JournalSelect.Text

-- The upper case of the characters that have one made of ASCII letters: the ASCII letters
-- themselves, the dotless i, the long s, the sharp s, and the ligatures. Every other character is
-- kept: the upper case of none of them is ASCII.
def upper (c : Char) : List Char :=
  if c.isLower then [c.toUpper]
  else match c with
    | 'ß' => ['S', 'S']
    | 'ı' => ['I']
    | 'ſ' => ['S']
    | 'ﬀ' => ['F', 'F']
    | 'ﬁ' => ['F', 'I']
    | 'ﬂ' => ['F', 'L']
    | 'ﬃ' => ['F', 'F', 'I']
    | 'ﬄ' => ['F', 'F', 'L']
    | 'ﬅ' => ['S', 'T']
    | 'ﬆ' => ['S', 'T']
    | _ => [c]

def uppercased (s : String) : String :=
  String.ofList (s.toList.flatMap upper)

end JournalSelect.Text
