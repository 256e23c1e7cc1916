import WireSchema.Number.Double
import WireSchema.Number.Integer

namespace WireSchema.Double

def exponent? : List Char → Option Int
  | [] => some 0
  | mark :: rest => if mark == 'e' || mark == 'E' then Integer.signed? rest else none

def decimal? (negative : Bool) (text : List Char) : Option Double :=
  let whole := text.takeWhile (·.isDigit)
  let (fraction, rest) :=
    match text.dropWhile (·.isDigit) with
    | '.' :: rest => (rest.takeWhile (·.isDigit), rest.dropWhile (·.isDigit))
    | rest => ([], rest)
  match Integer.natural? (whole ++ fraction), exponent? rest with
  | some digits, some tens => some (ofDecimal negative digits (tens - fraction.length))
  | _, _ => none

def unsigned? (negative : Bool) (text : List Char) : Option Double :=
  match String.ofList (text.map Char.toLower) with
  | "inf" | "infinity" => some (infinity negative)
  | "nan" => some (if negative then ⟨nan.bits ||| 0x8000000000000000⟩ else nan)
  | _ => decimal? negative text

def ofText? (text : String) : Option Double :=
  match text.toList with
  | '-' :: rest => unsigned? true rest
  | '+' :: rest => unsigned? false rest
  | rest => unsigned? false rest

end WireSchema.Double
