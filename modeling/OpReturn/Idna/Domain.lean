import OpReturn.Idna.Label

/-!
# Domain names

A domain name is a row of labels between dots; there may be a dot at its end. The full stops of
East Asian writing are dots as well.

* `Domain.encode`: the form in which a name is sent, in small ASCII letters.
* `Domain.decode`: the labels of the name that was sent.
-/

namespace OpReturn.Idna

/-- Why a text is no domain name. -/
inductive DomainError where
  | empty
  | tooLong
  | label (e : LabelError)
deriving DecidableEq, Repr

/-- What went wrong, in words. -/
def DomainError.message : DomainError → String
  | .empty => "Empty domain"
  | .tooLong => "Domain too long"
  | .label e => e.message

namespace Domain

/-- Is the character a dot? -/
def isDot (c : Char) : Bool := [0x2E, 0x3002, 0xFF0E, 0xFF61].contains c.toNat

/-- The labels of a name, without the empty one behind a dot at its end, and whether there was
one. -/
def labels (name : List Char) : List (List Char) × Bool :=
  let parts := name.splitOnP isDot
  if parts.getLast? = some [] then (parts.dropLast, true) else (parts, false)

/-- Applies a function to the labels of a name; also tells whether there was a dot at its end. -/
def mapLabels {α : Type} (f : List Char → Except LabelError α) (name : List Char) :
    Except DomainError (List α × Bool) := do
  if Label.maxDomain < name.length then throw .tooLong
  if name.isEmpty then throw .empty
  let (parts, dotted) := labels name
  return (← (parts.mapM f).mapError .label, dotted)

/-- The code points of the labels of the name that was sent as an ASCII text. -/
def decode (sent : List Char) : Except DomainError (List (List Nat)) :=
  (mapLabels Label.decode sent).map (·.1)

/-- The ASCII text that a name in small letters is sent as. -/
def encode (name : List Char) : Except DomainError (List Char) := do
  let (parts, dotted) ← mapLabels Label.encode name
  let sent := ['.'].intercalate (if dotted then parts ++ [[]] else parts)
  if (if dotted then Label.maxDomain else Label.maxDomain - 1) < sent.length then throw .tooLong
  return sent

end Domain
end OpReturn.Idna
