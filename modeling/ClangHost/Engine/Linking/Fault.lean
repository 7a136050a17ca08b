import ClangHost.Engine.Image.Fault
import ClangHost.Error

/-!
Why a library cannot be linked into the running program, by cause, and the wording of each cause.
What is passed over in a search is either not there or made for another machine.
-/
namespace ClangHost

inductive LinkFault where
  | nulInName
  /-- No file was found; the cause is that of the last place that was looked at. -/
  | unopened (name : Bytes) (cause : Option FileFault)
  | directory (file : Bytes)
  | image (subject : Bytes) (cause : ImageFault)
  | requirementFormat (file : Bytes) (format : Nat)
  | definitionFormat (file : Bytes) (format : Nat)
  | missingVersion (file version asker : Bytes)
  | undefinedSymbol (file name : Bytes) (version : Option Bytes)
  | relocationKind (file : Bytes) (kind : Nat) (isDeferred : Bool)
  | unprotectable (file : Bytes)
  deriving DecidableEq, Repr

namespace LinkFault

def causePhrase : FileFault → String
  | .notDirectory => "Not a directory"
  | .nameTooLong => "File name too long"
  | _ => "No such file or directory"

/-- A kind of relocation in base sixteen: two digits, or eight where two are not enough. -/
def kindText (kind : Nat) : String :=
  let digits := Text.hexDigits kind
  "0x" ++ String.ofList (digits.leftpad (if kind ≤ 0xff then 2 else 8) '0')

def subject? : LinkFault → Option Bytes
  | nulInName => none
  | unopened subject _ | directory subject | image subject _ | requirementFormat subject _
  | definitionFormat subject _ | missingVersion subject _ _ | undefinedSymbol subject _ _
  | relocationKind subject _ _ | unprotectable subject => some subject

def phrase : LinkFault → String
  | nulInName => "could not create a C string from bytes"
  | unopened _ cause => "cannot open shared object file" ++ cause.elim "" (": " ++ causePhrase ·)
  | directory _ => "cannot read file data: Is a directory"
  | image _ cause => cause.phrase
  | requirementFormat _ format => "unsupported version " ++ toString format ++ " of Verneed record"
  | definitionFormat _ format => "unsupported version " ++ toString format ++ " of Verdef record"
  | missingVersion _ version asker =>
    "version \x60" ++ shown version ++ "' not found (required by " ++ shown asker ++ ")"
  | undefinedSymbol _ name version =>
    "undefined symbol: " ++ shown name ++ version.elim "" (", version " ++ shown ·)
  | relocationKind _ kind isDeferred =>
    (if isDeferred then "unexpected PLT reloc type " else "unexpected reloc type ") ++ kindText kind
  | unprotectable _ =>
    "cannot apply additional memory protection after relocation: Cannot allocate memory"

def message (fault : LinkFault) : String :=
  fault.subject?.elim "" (shown · ++ ": ") ++ fault.phrase

def isPassedOver : LinkFault → Bool
  | unopened _ _ => true
  | image _ cause => cause.isPassedOver
  | _ => false

end LinkFault
end ClangHost
