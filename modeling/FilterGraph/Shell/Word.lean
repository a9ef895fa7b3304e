namespace FilterGraph.Shell

def isPlain (c : Char) : Bool :=
  c.isAlphanum || "_@%+=:,./-".toList.contains c

/-- A single quote closes the quotes, stands in double quotes and opens them again. -/
def quotedChars : List Char → List Char
  | [] => []
  | '\'' :: rest => ['\'', '"', '\'', '"', '\''] ++ quotedChars rest
  | c :: rest => c :: quotedChars rest

def quoteChars (cs : List Char) : List Char :=
  if !cs.isEmpty && cs.all isPlain then cs else '\'' :: quotedChars cs ++ ['\'']

def quote (s : String) : String := String.ofList (quoteChars s.toList)

end FilterGraph.Shell
