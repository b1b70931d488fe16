import Reckon.Text.ClusterBreak

/-! Clusters: the stretches of text that a reader takes for one character each, by the rules for
extended grapheme clusters of Unicode 17.0. -/

namespace Reckon.Text

namespace ClusterBreak

def isControl : ClusterBreak → Bool
  | .carriageReturn | .lineFeed | .control => true
  | _ => false

/-- Whether it stays with any character before it that is no control. -/
def trails : ClusterBreak → Bool
  | .extend | .linker | .joiner | .nonJoiner | .spacingMark => true
  | _ => false

/-- Whether the two may stand side by side in a Hangul syllable. -/
def formSyllable : ClusterBreak → ClusterBreak → Bool
  | .leadingJamo, .leadingJamo | .leadingJamo, .vowelJamo => true
  | .leadingJamo, .openSyllable | .leadingJamo, .closedSyllable => true
  | .vowelJamo, .vowelJamo | .vowelJamo, .trailingJamo => true
  | .openSyllable, .vowelJamo | .openSyllable, .trailingJamo => true
  | .closedSyllable, .trailingJamo | .trailingJamo, .trailingJamo => true
  | _, _ => false

/-! A cluster is given by its breaks, the last one first. -/

/-- Whether the cluster ends in a consonant and, after it, a linker. -/
def endsLinked (bs : List ClusterBreak) : Bool :=
  let isSign (b : ClusterBreak) : Bool := b = .linker || b = .extend || b = .joiner
  (bs.takeWhile isSign).contains .linker && (bs.dropWhile isSign).head? = some .consonant

/-- Whether the cluster ends in a pictograph, whatever extends it, and a joiner. -/
def endsJoined : List ClusterBreak → Bool
  | .joiner :: bs =>
    let isSign (b : ClusterBreak) : Bool := b = .extend || b = .linker || b = .nonJoiner
    (bs.dropWhile isSign).head? = some .pictograph
  | _ => false

/-- Whether the cluster ends in a regional indicator that still lacks its second. -/
def endsUnpaired (bs : List ClusterBreak) : Bool :=
  (bs.takeWhile (· = .regional)).length % 2 = 1

/-- Whether the cluster takes in `b` as its next character. -/
def takesIn : List ClusterBreak → ClusterBreak → Bool
  | [], _ => false
  | a :: as, b =>
    if a.isControl || b.isControl then a = .carriageReturn && b = .lineFeed
    else b.trails || a = .prepended || formSyllable a b || b = .consonant && endsLinked (a :: as) ||
      b = .pictograph && endsJoined (a :: as) || b = .regional && endsUnpaired (a :: as)

end ClusterBreak

/-- Goes on from the cluster `cs`, the last character first, whose breaks are `bs`. -/
def clustersFrom (cs : List Char) (bs : List ClusterBreak) : List Char → List (List Char)
  | [] => [cs.reverse]
  | d :: ds =>
    let b := ClusterBreak.ofChar d
    if ClusterBreak.takesIn bs b then clustersFrom (d :: cs) (b :: bs) ds
    else cs.reverse :: clustersFrom [d] [b] ds

def clusters : List Char → List (List Char)
  | [] => []
  | c :: cs => clustersFrom [c] [.ofChar c] cs

theorem flatten_clustersFrom (cs : List Char) (bs : List ClusterBreak) (ds : List Char) :
    (clustersFrom cs bs ds).flatten = cs.reverse ++ ds := by
  induction ds generalizing cs bs with
  | nil => simp [clustersFrom]
  | cons d ds ih =>
    unfold clustersFrom
    dsimp only
    split
    · simp [ih]
    · simp [ih]

theorem flatten_clusters (cs : List Char) : (clusters cs).flatten = cs := by
  cases cs with
  | nil => rfl
  | cons c cs => simp [clusters, flatten_clustersFrom]

example : (clusters "xe\u0301\u0903\ty".toList).map String.ofList =
    ["x", "e\u0301\u0903", "\t", "y"] := by decide +kernel
example : (clusters "नमस्ते".toList).map String.ofList = ["न", "म", "स्ते"] := by decide +kernel
example : (clusters "한글👨\u200d👩🇦🇧🇨".toList).map String.ofList =
    ["한", "글", "👨\u200d👩", "🇦🇧", "🇨"] := by decide +kernel

end Reckon.Text
