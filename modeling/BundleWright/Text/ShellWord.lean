/-!
Words of a shell command line. A word of plain characters stands for itself; any other is put in
single quotes, where each single quote inside is written by closing them, quoting it in double
quotes, and opening them again.
-/
namespace BundleWright.Text

def isPlainShellChar (c : Char) : Bool :=
  c.isAlphanum || "_@%+=:,./-".toList.contains c

def shellQuoteChar (c : Char) : List Char :=
  if c = '\'' then ['\'', '"', '\'', '"', '\''] else [c]

def shellQuote (cs : List Char) : List Char :=
  if cs.isEmpty then ['\'', '\'']
  else if cs.all isPlainShellChar then cs
  else '\'' :: cs.flatMap shellQuoteChar ++ ['\'']

def shellWord (s : String) : String := String.ofList (shellQuote s.toList)

end BundleWright.Text
