/-
Clusters: the characters that a reader takes for one, such as a letter with
its accents, the letters of a Korean syllable, or a picture made of others.

The rules are those of Unicode for extended grapheme clusters. Whether a
character belongs to the cluster before it hangs on the character before
it, and for some on a few more, which `Cluster` keeps.
-/
import CellSync.Text.Clustering

namespace CellSync.Text

/-- A picture at the end of a cluster. -/
inductive PictureEnd where
  | absent
  /-- A picture with what attaches to it. -/
  | present
  /-- A picture with a joiner after it. -/
  | tied
deriving DecidableEq

/-- A consonant at the end of a cluster. -/
inductive ConsonantEnd where
  | absent
  /-- A consonant with what attaches to it. -/
  | present
  /-- A consonant with a linker after it. -/
  | linked
deriving DecidableEq

/-- The end of a cluster, as far as it bears on whether the next character
belongs to it. -/
structure Cluster where
  last : Clustering
  picture : PictureEnd
  consonant : ConsonantEnd
  /-- Whether it ends with a letter that spells flags and has no partner yet. -/
  hasLoneIndicator : Bool
deriving DecidableEq

namespace Cluster

/-- The end of a cluster before its first character. -/
def empty : Cluster := ⟨.other, .absent, .absent, false⟩

/-- The picture at the end after one more character. -/
def nextPicture (cluster : Cluster) (kind : Clustering) : PictureEnd :=
  match kind, cluster.picture with
  | .pictograph, _ => .present
  | .extending, .present => .present
  | .joiner, .present => .tied
  | _, _ => .absent

/-- The consonant at the end after one more character. The joiner attaches, the
sign that forbids joining does not. -/
def nextConsonant (cluster : Cluster) (kind : Clustering) (c : Char) : ConsonantEnd :=
  if kind = .consonant then .present
  else if cluster.consonant = .absent then .absent
  else if isLinker c then .linked
  else if (kind = .extending && c.toNat ≠ 0x200c) || kind = .joiner then cluster.consonant
  else .absent

/-- A cluster with one more character. -/
def push (cluster : Cluster) (c : Char) : Cluster :=
  let kind := Clustering.ofChar c
  { last := kind
    picture := cluster.nextPicture kind
    consonant := cluster.nextConsonant kind c
    hasLoneIndicator := kind = .indicator && !cluster.hasLoneIndicator }

/-- Whether a letter of Korean and the one after it are in one syllable. -/
def sharesSyllable : Clustering → Clustering → Bool
  | .leading, next =>
    next = .leading || next = .vowel || next = .openSyllable || next = .closedSyllable
  | .openSyllable, next | .vowel, next => next = .vowel || next = .trailing
  | .closedSyllable, next | .trailing, next => next = .trailing
  | _, _ => false

/-- Whether a character stands alone whatever is around it. -/
def standsAlone (kind : Clustering) : Bool :=
  kind = .control || kind = .carriageReturn || kind = .lineFeed

/-- Whether a character of some kind belongs to the cluster before it. -/
def takes (cluster : Cluster) (kind : Clustering) : Bool :=
  if standsAlone cluster.last || standsAlone kind then
    cluster.last = .carriageReturn && kind = .lineFeed
  else
    kind = .extending || kind = .joiner || kind = .spacing || cluster.last = .prepended ||
    sharesSyllable cluster.last kind ||
    (kind = .consonant && cluster.consonant = .linked) ||
    (kind = .pictograph && cluster.picture = .tied) ||
    (kind = .indicator && cluster.hasLoneIndicator)

/-- How many of some characters belong to the cluster before them. -/
def taken (cluster : Cluster) : List Char → Nat
  | [] => 0
  | c :: rest =>
    if cluster.takes (.ofChar c) then (cluster.push c).taken rest + 1 else 0

/-- How many characters belong to the cluster that a character begins, of those
after it. -/
def attachedLength (c : Char) (cs : List Char) : Nat := (empty.push c).taken cs

end Cluster

end CellSync.Text
