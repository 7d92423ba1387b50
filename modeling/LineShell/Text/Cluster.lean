import LineShell.Text.Property.Breaking
import LineShell.Text.Property.Extending

/-!
# What a reader takes for one character

A text is cut into extended grapheme clusters: a character with its marks, a syllable of Hangul, a
flag, a picture joined from pictures, or consonants tied together by a linker.  Whether a character
joins the cluster before it depends on that cluster alone.
-/

namespace LineShell

/-- How a character takes part in clusters. -/
inductive Joining where
  | ret
  | feed
  | control
  | extending
  | joiner
  | spacing
  | prefixed
  | lead
  | vowel
  | tail
  /-- A whole syllable of Hangul, with a trailing consonant or without. -/
  | syllable (closed : Bool)
  /-- A letter of a flag. -/
  | indicator
  | other
  deriving DecidableEq, Repr

/-- How a character takes part in clusters. -/
def joining (c : Char) : Joining :=
  let n := c.toNat
  if c = '\r' then .ret
  else if c = '\n' then .feed
  else if 0x20 ≤ n && n < 0x7F then .other
  else if controlRanges.has c then .control
  else if n = 0x200D then .joiner
  else if extendingRanges.has c || 0x1F3FB ≤ n && n ≤ 0x1F3FF then .extending
  else if spacingRanges.has c then .spacing
  else if prefixedRanges.has c then .prefixed
  else if 0xAC00 ≤ n && n ≤ 0xD7A3 then .syllable ((n - 0xAC00) % 28 != 0)
  else if hangulLeads.has c then .lead
  else if hangulVowels.has c then .vowel
  else if hangulTails.has c then .tail
  else if 0x1F1E6 ≤ n && n ≤ 0x1F1FF then .indicator
  else .other

/-- Whether a cluster, last character first, is a picture that waits for another one. -/
def awaitsPicture : List Char → Bool
  | c :: rest =>
    joining c = .joiner &&
      ((rest.dropWhile fun c => joining c = .extending).head?.any picturedRanges.has)
  | [] => false

/-- Whether a cluster, last character first, ends in consonants that wait for another one. -/
def awaitsConsonant (cluster : List Char) : Bool :=
  let carries := fun c =>
    (joining c = .extending || joining c = .joiner) && c != '\u200c'
  let ties := cluster.takeWhile carries
  ties.any consonantLinkers.has && ((cluster.drop ties.length).head?.any linkedConsonants.has)

/-- Whether a cluster, last character first, ends in half of a flag. -/
def awaitsIndicator (cluster : List Char) : Bool :=
  (cluster.takeWhile fun c => joining c = .indicator).length % 2 = 1

/-- Whether a character joins the cluster before it, which is given last character first. -/
def joins (cluster : List Char) (c : Char) : Bool :=
  match cluster.head?.map joining, joining c with
  | none, _ => true
  | some .ret, .feed => true
  | some .ret, _ | some .feed, _ | some .control, _ => false
  | some _, .ret | some _, .feed | some _, .control => false
  | some _, .extending | some _, .joiner | some _, .spacing => true
  | some .prefixed, _ => true
  | some .lead, .lead | some .lead, .vowel | some .lead, .syllable _ => true
  | some .vowel, .vowel | some .vowel, .tail => true
  | some (.syllable false), .vowel | some (.syllable _), .tail | some .tail, .tail => true
  | some _, .indicator => awaitsIndicator cluster
  | some _, _ =>
    picturedRanges.has c && awaitsPicture cluster ||
      linkedConsonants.has c && awaitsConsonant cluster

/-- Cuts a text into clusters, given the one that was begun, last character first. -/
def clustersFrom (begun : List Char) : List Char → List (List Char)
  | [] => if begun.isEmpty then [] else [begun.reverse]
  | c :: rest =>
    if joins begun c then clustersFrom (c :: begun) rest
    else begun.reverse :: clustersFrom [c] rest

def clusters (text : List Char) : List (List Char) := clustersFrom [] text

/-- Nothing is lost by cutting. -/
theorem flatten_clustersFrom (begun text : List Char) :
    (clustersFrom begun text).flatten = begun.reverse ++ text := by
  fun_induction clustersFrom begun text with
  | case1 begun h => simp_all [List.isEmpty_iff]
  | case2 begun h => simp
  | case3 begun c rest h ih => simp [ih]
  | case4 begun c rest h ih => simp [ih]

@[simp] theorem flatten_clusters (text : List Char) : (clusters text).flatten = text := by
  simp [clusters, flatten_clustersFrom]

end LineShell
