import WireSchema.Text.Blank

namespace WireSchema.Text

def dropEnd (test : Char → Bool) (text : List Char) : List Char :=
  (text.reverse.dropWhile test).reverse

def trim (text : String) : String :=
  String.ofList (dropEnd isBlank (text.toList.dropWhile isBlank))

end WireSchema.Text
