/-!
# Host and port

Cutting a `host:port` text in two, as a network address is written: the port is everything after
the last colon; a host with colons of its own must stand between square brackets, which then
end just before that colon, and no other bracket may appear.
-/

namespace PeerBook

/-- Why a text is not `host:port`. -/
inductive HostPortError where
  | missingPort
  | tooManyColons
  | missingCloseBracket
  | unexpectedOpenBracket
  | unexpectedCloseBracket
  deriving DecidableEq, Repr

/-- The words for why a text is not `host:port`. -/
def HostPortError.reason : HostPortError → String
  | .missingPort => "missing port in address"
  | .tooManyColons => "too many colons in address"
  | .missingCloseBracket => "missing ']' in address"
  | .unexpectedOpenBracket => "unexpected '[' in address"
  | .unexpectedCloseBracket => "unexpected ']' in address"

/-- The report of a refused text: the text, then why. -/
def HostPortError.message (error : HostPortError) (text : String) : String :=
  if text.isEmpty then error.reason else "address " ++ text ++ ": " ++ error.reason

/-- The position of the last occurrence of a character. -/
def lastIndexOf (chars : List Char) (target : Char) : Option Nat :=
  (List.range chars.length).reverse.find? fun index => chars[index]? == some target

/-- The position of the first occurrence of a character. -/
def firstIndexOf (chars : List Char) (target : Char) : Option Nat :=
  chars.findIdx? (· == target)

/-- Cuts `host:port` into host and port. -/
def splitHostPort (text : String) : Except HostPortError (String × String) := do
  let chars := text.toList
  let some colon := lastIndexOf chars ':' | throw .missingPort
  let (host, openLimit, closeLimit) ← match chars with
    | '[' :: _ =>
      match firstIndexOf chars ']' with
      | none => throw .missingCloseBracket
      | some close =>
        if close + 1 = chars.length then throw .missingPort
        else if close + 1 = colon then pure ((chars.take close).drop 1, 1, close + 1)
        else if chars[close + 1]? == some ':' then throw .tooManyColons
        else throw .missingPort
    | _ =>
      let host := chars.take colon
      if host.contains ':' then throw .tooManyColons
      pure (host, 0, 0)
  if (chars.drop openLimit).contains '[' then throw .unexpectedOpenBracket
  if (chars.drop closeLimit).contains ']' then throw .unexpectedCloseBracket
  return (String.ofList host, String.ofList (chars.drop (colon + 1)))

end PeerBook
