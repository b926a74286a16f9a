import CertApproval.Floating.Shortest

/-!
A double with a fixed number of places after the point. The exact value is rounded,
and a tie goes to the even last digit.
-/

namespace CertApproval.Floating

def padZeros (width : Nat) (digits : List Char) : List Char :=
  List.replicate (width - digits.length) '0' ++ digits

/-- A double with a fixed, positive number of places. -/
def withPlaces (places : Nat) (x : Double) : String :=
  match parts x with
  | .undefined => "nan"
  | .infinite negative => if negative then "-inf" else "inf"
  | .finite negative significand exponent =>
    let (n, d) := scale significand 1 exponent
    let digits := padZeros (places + 1) (natDigits (roundQuotient (n * Nat.pow 10 places) d))
    let whole := digits.length - places
    String.ofList ((if negative then ['-'] else []) ++ digits.take whole ++ ['.'] ++
      digits.drop whole)

end CertApproval.Floating
