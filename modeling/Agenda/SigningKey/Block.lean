/-!
# Blocks of key files

A key file holds blocks. A block has a name, which stands between dashes at its two boundaries, and a
content between them.

* `KeyBoundary` — a boundary of a block; `KeyBoundary.inText` — the boundaries in a text.
* `KeyBoundary.hasBlock` — whether a text holds a block with a content.
-/

namespace Agenda

/-- A boundary of a block in a key file: its name between dashes. -/
structure KeyBoundary where
  /-- Whether the block begins at the boundary; else it ends there. -/
  isOpening : Bool
  name : String
deriving DecidableEq

namespace KeyBoundary

def names : List String :=
  ["CERTIFICATE", "TRUSTED CERTIFICATE", "PRIVATE KEY", "PUBLIC KEY", "ENCRYPTED PRIVATE KEY",
    "OPENSSH PRIVATE KEY", "DSA PRIVATE KEY", "RSA PRIVATE KEY", "RSA PUBLIC KEY", "EC PRIVATE KEY",
    "DH PARAMETERS", "NEW CERTIFICATE REQUEST", "CERTIFICATE REQUEST", "SSH2 PUBLIC KEY",
    "SSH2 ENCRYPTED PRIVATE KEY", "X509 CRL"]

def all : List KeyBoundary :=
  names.flatMap fun name => [⟨true, name⟩, ⟨false, name⟩]

def label (b : KeyBoundary) : String :=
  (if b.isOpening then "BEGIN " else "END ") ++ b.name

/-- The number of characters of a boundary: there are five on each side of its label. -/
def width (b : KeyBoundary) : Nat :=
  b.label.length + 10

def afterDashes? (cs : List Char) : Option (List Char) :=
  "----".toList.isPrefixOf? cs

/-- The text after a fifth dash, in place of which there may be a space. -/
def afterFifthDash? : List Char → Option (List Char)
  | c :: rest => if c = '-' ∨ c = ' ' then some rest else none
  | [] => none

/-- The text after a boundary at the front of it. -/
def after? (b : KeyBoundary) (cs : List Char) : Option (List Char) := do
  let cs ← afterDashes? cs
  let cs ← afterFifthDash? cs
  let cs ← b.label.toList.isPrefixOf? cs
  let cs ← afterFifthDash? cs
  afterDashes? cs

/-- The boundary at the front of a text. -/
def atFront? (cs : List Char) : Option KeyBoundary :=
  if (afterDashes? cs).isSome then all.find? fun b => (b.after? cs).isSome else none

/-- The boundaries in a text with their places, from left to right; two boundaries may share the dashes
between their labels. `place` is the place of the first character. -/
def inText (place : Nat) : List Char → List (Nat × KeyBoundary)
  | [] => []
  | c :: rest =>
      match atFront? (c :: rest) with
      | some b => (place, b) :: inText (place + 1) rest
      | none => inText (place + 1) rest

/-- Whether a block is closed with a content that is not empty. `opened` holds the blocks that have been
opened, the latest first, each with the place where its content begins. A block that is opened once more
begins anew. -/
def closesBlock (opened : List (String × Nat)) : List (Nat × KeyBoundary) → Bool
  | [] => false
  | (place, b) :: rest =>
      if b.isOpening then closesBlock ((b.name, place + b.width) :: opened) rest
      else (opened.lookup b.name).any (· < place) || closesBlock opened rest

/-- Whether a block stands anywhere in a text: its two boundaries and, between them, at least one
character. -/
def hasBlock (cs : List Char) : Bool :=
  closesBlock [] (inText 0 cs)

end KeyBoundary
end Agenda
