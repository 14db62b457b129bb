import GraphBroker.Proofs.Remote.Host
import GraphBroker.Proofs.Remote.Segment
import GraphBroker.Proofs.Text.Split
import Mathlib.Data.List.Forall2

namespace GraphBroker.Remote

/-!
# Addresses beneath a server

What is named beneath a server has an address whose path goes on from the server's own
path.  Each name is one segment of it, as long as the name is no dot segment and has no
line break: a dot segment is left out, a line break is dropped, and what then looks like a
dot segment may lead out of the path.
-/

namespace Url

/-- The segments of a path, of which there are none when it is a slash alone. -/
def opened (path : List String) : List String :=
  if path = [""] then [] else path

theorem opened_append_nonempty
    (path : List String)
    {segment : String}
    (nonempty : segment ≠ "") :
    opened (path ++ [segment]) = path ++ [segment] := by
  cases path <;> simp [opened, nonempty]

theorem length_opened_le
    (path : List String) :
    (opened path).length ≤ path.length := by
  unfold opened
  split
  · exact Nat.zero_le _
  · exact Nat.le_refl _

theorem opened_append_empty
    (path : List String) :
    opened (path ++ [""]) = [] ∨ opened (path ++ [""]) = path ++ [""] := by
  cases path <;> simp [opened]

/-- What two dots leave of a path: all of it after the letter of a drive, and less otherwise. -/
theorem parent_reverse
    (path : List String) :
    (Trail.parent path.reverse).reverse = path ∨
      ((Trail.parent path.reverse).reverse ++ [""]).length ≤ path.length := by
  cases reversed : path.reverse with
  | nil =>
      left
      rw [List.reverse_eq_nil_iff.mp reversed]
      rfl
  | cons newest earlier =>
      obtain rfl := List.reverse_eq_cons_iff.mp reversed
      rw [Trail.parent]
      split
      · left
        exact List.reverse_cons
      · right
        simp

/-- The path after one more segment, which no file has. -/
theorem segments_step
    (kept : UInt8 → Bool)
    (before : List String)
    (chars : List Char) :
    (Trail.step kept false true ⟨before, false⟩ chars).segments =
      if isDoubleDot (encodeChars kept (withoutBreaks chars)) then
        (Trail.parent before).reverse ++ [""]
      else if isSingleDot (encodeChars kept (withoutBreaks chars)) then
        before.reverse ++ [""]
      else
        before.reverse ++ [encodeChars kept (withoutBreaks chars)] := by
  simp only [Trail.step, Bool.false_and, Bool.false_eq_true, if_false, if_true]
  split
  · exact List.reverse_cons
  · split <;> exact List.reverse_cons

/-! ## One name -/

/-- A segment that a name may have added: what the name is written as, or nothing. -/
def MayComeOf (special : Bool) (segment name : String) : Prop :=
  name ≠ "." ∧ name ≠ ".." ∧ (segment = "" ∨ segment = segmentOf special name)

section

variable {scheme : String} (noFile : scheme ≠ "file")

include noFile

/-- A name that is no dot segment is added at the end, unless dropping its line breaks makes it one. -/
theorem pushSegment_eq
    (path : List String)
    {name : String}
    (notDot : name ≠ ".")
    (notDots : name ≠ "..") :
    pushSegment scheme path name =
      if isDoubleDot (segmentOf (isSpecial scheme) name) then
        (Trail.parent (opened path).reverse).reverse ++ [""]
      else if isSingleDot (segmentOf (isSpecial scheme) name) then
        opened path ++ [""]
      else
        opened path ++ [segmentOf (isSpecial scheme) name] := by
  have noDot : ¬ (name = "." ∨ name = "..") := not_or.mpr ⟨notDot, notDots⟩
  have notFile : (scheme == "file") = false := beq_eq_false_iff_ne.mpr noFile
  have before : (if path = [""] then [] else path.reverse) = (opened path).reverse := by
    unfold opened
    split <;> rfl
  rw [pushSegment, if_neg noDot, notFile, before]
  have walked := segments_step (keptInSegment (isSpecial scheme)) (opened path).reverse name.toList
  rw [List.reverse_reverse] at walked
  exact walked

/-- A name makes a path one segment longer, or not longer at all. -/
theorem opened_pushSegment
    (path : List String)
    (name : String) :
    (opened (pushSegment scheme path name)).length ≤ (opened path).length ∨
      ∃ segment, MayComeOf (isSpecial scheme) segment name ∧
        opened (pushSegment scheme path name) = opened path ++ [segment] := by
  by_cases dot : name = "." ∨ name = ".."
  · left
    have skipped : pushSegment scheme path name = path := if_pos dot
    exact Nat.le_of_eq (by rw [skipped])
  · obtain ⟨notDot, notDots⟩ := not_or.mp dot
    have grown (segment : String)
        (written : segment = "" ∨ segment = segmentOf (isSpecial scheme) name) :
        (opened (opened path ++ [segment])).length ≤ (opened path).length ∨
          ∃ added, MayComeOf (isSpecial scheme) added name ∧
            opened (opened path ++ [segment]) = opened path ++ [added] := by
      have mayCome : MayComeOf (isSpecial scheme) segment name := ⟨notDot, notDots, written⟩
      by_cases empty : segment = ""
      · subst empty
        rcases opened_append_empty (opened path) with nothing | longer
        · left
          simp [nothing]
        · exact Or.inr ⟨"", mayCome, longer⟩
      · exact Or.inr ⟨segment, mayCome, opened_append_nonempty _ empty⟩
    rw [pushSegment_eq noFile path notDot notDots]
    split
    · rcases parent_reverse (opened path) with same | shorter
      · rw [same]
        exact grown "" (Or.inl rfl)
      · left
        exact Nat.le_trans (length_opened_le _) shorter
    · split
      · exact grown "" (Or.inl rfl)
      · exact grown _ (Or.inr rfl)

/-- A plain name is added as the one segment that it is written as. -/
theorem opened_pushSegment_of_plain
    (path : List String)
    {name : String}
    (nonempty : name ≠ "")
    (plain : IsPlain name) :
    opened (pushSegment scheme path name) =
      opened path ++ [segmentOf (isSpecial scheme) name] := by
  have read := decodeChars?_segmentOf_of_plain (isSpecial scheme) plain
  have noDots : ¬ isDoubleDot (segmentOf (isSpecial scheme) name) = true := by
    intro dots
    exact plain.2.1 (Option.some.inj (read.symm.trans (decodeChars?_of_isDoubleDot dots)))
  have noDot : ¬ isSingleDot (segmentOf (isSpecial scheme) name) = true := by
    intro dot
    exact plain.1 (Option.some.inj (read.symm.trans (decodeChars?_of_isSingleDot dot)))
  rw [pushSegment_eq noFile path plain.1 plain.2.1, if_neg noDots, if_neg noDot]
  exact opened_append_nonempty _ (segmentOf_ne_empty _ nonempty plain)

/-! ## Any number of names -/

/-- Plain names are added to a path as segments of their own. -/
theorem opened_foldl_of_plain
    {names : List String}
    (plain : ∀ name ∈ names, name ≠ "" ∧ IsPlain name)
    (path : List String) :
    opened (names.foldl (pushSegment scheme) path) =
      opened path ++ names.map (segmentOf (isSpecial scheme)) := by
  induction names generalizing path with
  | nil =>
      simp
  | cons name rest inductionHypothesis =>
      obtain ⟨nonempty, first⟩ := plain name List.mem_cons_self
      have later := inductionHypothesis (fun other member => plain other (List.mem_cons_of_mem _ member))
      rw [List.foldl_cons, later, opened_pushSegment_of_plain noFile path nonempty first]
      simp

/-- A path grows by one segment a name only if each name adds one at its end. -/
theorem opened_foldl
    (names : List String)
    (path : List String) :
    (opened (names.foldl (pushSegment scheme) path)).length < (opened path).length + names.length ∨
      ∃ segments, List.Forall₂ (MayComeOf (isSpecial scheme)) segments names ∧
        opened (names.foldl (pushSegment scheme) path) = opened path ++ segments := by
  induction names generalizing path with
  | nil =>
      exact Or.inr ⟨[], .nil, by simp⟩
  | cons name rest inductionHypothesis =>
      rw [List.foldl_cons, List.length_cons]
      rcases opened_pushSegment noFile path name with short | ⟨segment, comes, longer⟩
      · left
        rcases inductionHypothesis (pushSegment scheme path name) with shorter | ⟨segments, all, same⟩
        · exact Nat.lt_of_lt_of_le shorter (Nat.add_le_add short (Nat.le_succ _))
        · rw [same, List.length_append, all.length_eq]
          exact Nat.add_lt_add_of_le_of_lt short (Nat.lt_succ_self _)
      · rcases inductionHypothesis (pushSegment scheme path name) with shorter | ⟨segments, all, same⟩
        · left
          rwa [longer, List.length_append, List.length_singleton, Nat.add_assoc,
            Nat.add_comm 1] at shorter
        · right
          refine ⟨segment :: segments, .cons comes all, ?_⟩
          rw [same, longer, List.append_assoc]
          rfl

end

/-- A name that a segment stands for is plain. -/
theorem isPlain_of_standsFor
    {special : Bool}
    {segment name : String}
    (nonempty : name ≠ "")
    (comes : MayComeOf special segment name)
    (stands : StandsFor segment name) :
    IsPlain name := by
  obtain ⟨notDot, notDots, written⟩ := comes
  refine ⟨notDot, notDots, ?_⟩
  rcases written with rfl | rfl
  · exact absurd (Option.some.inj stands.2).symm nonempty
  · exact decodeChars?_segmentOf_iff.mp stands.2

/-- A path goes on by one segment for each name if and only if every name is plain. -/
theorem holds_names_iff
    {scheme : String}
    (noFile : scheme ≠ "file")
    (special : isSpecial scheme = true)
    (path : List String)
    {names : List String}
    (nonempty : ∀ name ∈ names, name ≠ "") :
    (∃ segments, opened (names.foldl (pushSegment scheme) path) = opened path ++ segments ∧
        List.Forall₂ StandsFor segments names) ↔
      ∀ name ∈ names, IsPlain name := by
  constructor
  · rintro ⟨segments, held, stand⟩
    rcases opened_foldl noFile names path with short | ⟨others, come, same⟩
    · rw [held, List.length_append, stand.length_eq] at short
      exact absurd short (Nat.lt_irrefl _)
    · obtain rfl := List.append_cancel_left (held.symm.trans same)
      clear held same
      induction stand with
      | nil =>
          simp
      | cons first later inductionHypothesis =>
          cases come with
          | cons comes others =>
              rw [List.forall_mem_cons] at nonempty ⊢
              exact ⟨isPlain_of_standsFor nonempty.1 comes first,
                inductionHypothesis nonempty.2 others⟩
  · intro plain
    refine ⟨names.map (segmentOf true), ?_, ?_⟩
    · have both := opened_foldl_of_plain noFile
        (fun name member => ⟨nonempty name member, plain name member⟩) path
      rwa [special] at both
    · rw [List.forall₂_map_left_iff, List.forall₂_same]
      intro name member
      exact standsFor_segmentOf (plain name member)

/-! ## Written paths -/

/-- Segments as a path is written. -/
def written (segments : List String) : String :=
  String.join (segments.map fun segment => "/" ++ segment)

theorem written_append
    (first second : List String) :
    written (first ++ second) = written first ++ written second := by
  induction first with
  | nil =>
      simp [written]
  | cons segment rest inductionHypothesis =>
      simp only [written, List.cons_append, List.map_cons, String.join_cons] at inductionHypothesis ⊢
      rw [inductionHypothesis, String.append_assoc, String.append_assoc, String.append_assoc]

theorem intercalate_written
    (segments : List String)
    (before : List Char) :
    before ++ (written segments).toList =
      ['/'].intercalate (before :: segments.map String.toList) := by
  induction segments generalizing before with
  | nil =>
      simp [written]
  | cons segment rest inductionHypothesis =>
      rw [List.map_cons, List.intercalate_cons_cons, ← inductionHypothesis]
      simp [written, String.join_cons]

/-- A written path is cut at its slashes into the segments, unless there are slashes in them. -/
theorem splitAtSlashes_written
    {segments : List String}
    (slashless : ∀ segment ∈ segments, '/' ∉ segment.toList) :
    Text.splitAtSlashes (written segments) = "" :: segments := by
  rw [Text.splitAtSlashes_eq_iff]
  refine ⟨by simp, ?_, intercalate_written segments []⟩
  rw [List.forall_mem_cons]
  exact ⟨by simp, slashless⟩

/-- A path without slashes in its segments is known by its text. -/
theorem written_injective
    {first second : List String}
    (firstSlashless : ∀ segment ∈ first, '/' ∉ segment.toList)
    (secondSlashless : ∀ segment ∈ second, '/' ∉ segment.toList)
    (same : written first = written second) :
    first = second := by
  have split := splitAtSlashes_written firstSlashless
  rw [same, splitAtSlashes_written secondSlashless] at split
  exact (List.cons.inj split).2.symm

/-- Two URLs that differ in their paths at most are written alike only with their paths. -/
theorem written_eq_of_render
    {url : Url}
    {first second : List String}
    (same : { url with path := first }.render = { url with path := second }.render) :
    written first = written second := by
  simp only [render, target, pathText, place, host, port?, String.append_assoc,
    String.append_right_inj] at same
  rw [← String.append_assoc, ← String.append_assoc] at same
  exact (String.append_left_inj _).mp ((String.append_left_inj _).mp same)

/-- Segments that stand for names are not empty, and no slash is in them. -/
theorem shown_of_standFor
    {segments names : List String}
    (stand : List.Forall₂ StandsFor segments names)
    (nonempty : ∀ name ∈ names, name ≠ "") :
    ∀ segment ∈ segments, segment ≠ "" ∧ '/' ∉ segment.toList := by
  induction stand with
  | nil =>
      simp
  | cons first later inductionHypothesis =>
      rw [List.forall_mem_cons] at nonempty ⊢
      refine ⟨⟨?_, ?_⟩, inductionHypothesis nonempty.2⟩
      · rintro rfl
        exact nonempty.1 (Option.some.inj first.2).symm
      · intro member
        exact first.1 '/' member (by simp)

/-- A path is written as its segments are, with one more that is empty when it is a slash alone. -/
theorem written_of_opened
    {path before segments names : List String}
    (same : opened path = before ++ segments)
    (stand : List.Forall₂ StandsFor segments names)
    (nonempty : ∀ name ∈ names, name ≠ "") :
    ∃ added, written path = written before ++ written added ∧
      (∀ segment ∈ added, '/' ∉ segment.toList) ∧
      List.Forall₂ StandsFor (added.filter (· ≠ "")) names := by
  unfold opened at same
  split at same
  · next root =>
      obtain ⟨rfl, rfl⟩ := List.append_eq_nil_iff.mp same.symm
      refine ⟨[""], ?_, by simp, stand⟩
      rw [root, ← written_append]
      rfl
  · have shown := shown_of_standFor stand nonempty
    have whole : segments.filter (· ≠ "") = segments := by
      rw [List.filter_eq_self]
      intro segment member
      exact decide_eq_true (shown segment member).1
    refine ⟨segments, ?_, fun segment member => (shown segment member).2, ?_⟩
    · rw [same, written_append]
    · rwa [whole]

/-- Names are told from the written path that their segments are added to. -/
theorem eq_of_written
    {first second before firstSegments secondSegments firstNames secondNames : List String}
    (firstOpened : opened first = before ++ firstSegments)
    (secondOpened : opened second = before ++ secondSegments)
    (firstStand : List.Forall₂ StandsFor firstSegments firstNames)
    (secondStand : List.Forall₂ StandsFor secondSegments secondNames)
    (firstNonempty : ∀ name ∈ firstNames, name ≠ "")
    (secondNonempty : ∀ name ∈ secondNames, name ≠ "")
    (same : written first = written second) :
    firstNames = secondNames := by
  obtain ⟨firstAdded, firstWritten, firstSlashless, firstNamed⟩ :=
    written_of_opened firstOpened firstStand firstNonempty
  obtain ⟨secondAdded, secondWritten, secondSlashless, secondNamed⟩ :=
    written_of_opened secondOpened secondStand secondNonempty
  rw [firstWritten, secondWritten, String.append_right_inj] at same
  obtain rfl := written_injective firstSlashless secondSlashless same
  have unique : Relator.RightUnique StandsFor := by
    intro segment name other stands alsoStands
    exact Option.some.inj (stands.2.symm.trans alsoStands.2)
  exact unique.forall₂ firstNamed secondNamed

end Url

namespace Client

/-- Slashes at the end of an address say nothing. -/
theorem ofServer_append_slashes
    (server : Server)
    (slashes : Nat) :
    ofServer { server with url := server.url ++ String.ofList (List.replicate slashes '/') } =
      ofServer server := by
  have dropped :
      (List.replicate slashes '/' ++ server.url.toList.reverse).dropWhile (· == '/') =
        server.url.toList.reverse.dropWhile (· == '/') := by
    apply List.dropWhile_append_of_pos
    intro c member
    exact beq_iff_eq.mpr (List.eq_of_mem_replicate member)
  simp only [ofServer, withoutSlashes, String.toList_append, String.toList_ofList,
    List.reverse_append, List.reverse_replicate, dropped]

open Url in
/--
Beneath a server that takes requests every list of names has an address, which differs from
the server's in its path alone.  The path goes on by one segment for each name, of which it
is the percent-encoding, if and only if no name is a dot segment or has a line break; then
no other such names have that address.  Slashes at the end of the server's address change
nothing.
-/
theorem endpoint_holds_names_iff
    {server : Server}
    {base : Url}
    (read : Url.parse? (ofServer server).base = some base)
    (http : base.isHttp = true)
    {names : List String}
    (nonempty : ∀ name ∈ names, name ≠ "") :
    ∃ path,
      (ofServer server).endpoint names = .ok { base with path } ∧
      ((∃ segments, opened path = opened (popIfEmpty base.path) ++ segments ∧
          List.Forall₂ StandsFor segments names) ↔
        ∀ name ∈ names, IsPlain name) ∧
      ((∀ name ∈ names, IsPlain name) →
        ∀ others other, (∀ name ∈ others, name ≠ "" ∧ IsPlain name) →
          (ofServer server).endpoint others = .ok other →
          other.render = { base with path }.render →
          others = names) ∧
      ∀ slashes,
        ofServer { server with url := server.url ++ String.ofList (List.replicate slashes '/') } =
          ofServer server := by
  have special := isSpecial_of_isHttp http
  have noFile : base.scheme ≠ "file" := by
    rcases isHttp_iff.mp http with scheme | scheme <;> rw [scheme] <;> decide
  have reached := endpoint_eq_ok read names
  refine ⟨_, reached, holds_names_iff noFile special _ nonempty, ?_, ofServer_append_slashes server⟩
  intro plain others other plainOthers alsoReached same
  have nonemptyOthers : ∀ name ∈ others, name ≠ "" := fun name member => (plainOthers name member).1
  cases (endpoint_eq_ok read others).symm.trans alsoReached
  obtain ⟨segments, held, stand⟩ := (holds_names_iff noFile special _ nonempty).mpr plain
  obtain ⟨otherSegments, otherHeld, otherStand⟩ :=
    (holds_names_iff noFile special _ nonemptyOthers).mpr fun name member => (plainOthers name member).2
  exact eq_of_written otherHeld held otherStand stand nonemptyOthers nonempty
    (written_eq_of_render same)

/-- A client for a server on the network that has a path of its own. -/
def beneathPath : Client :=
  .ofServer ⟨"http://sd:5820/base/", ⟨"admin", "admin"⟩⟩

/-- Slashes, dots, percent signs and letters of any kind stay within the segment of their name. -/
theorem endpoint_holds_difficult_names :
    let base : Url := ⟨"http", some ⟨"", none, "sd", some 5820⟩, false, ["base"], none, none⟩
    let names := ["admin", "users", "../a%2Fb\\?#é"]
    (Url.parse? beneathPath.base = some base ∧ base.isHttp = true ∧ ∀ name ∈ names, name ≠ "") ∧
      ∃ path, beneathPath.endpoint names = .ok { base with path } ∧
        ∃ segments, Url.opened path = ["base"] ++ segments ∧
          List.Forall₂ Url.StandsFor segments names := by
  intro base names
  have read : Url.parse? beneathPath.base = some base := by
    change Url.parse? beneathPath.base =
      some ⟨"http", some ⟨"", none, "sd", some 5820⟩, false, ["base"], none, none⟩
    decide +kernel
  have nonempty : ∀ name ∈ names, name ≠ "" := by decide
  have plain : ∀ name ∈ names, Url.IsPlain name := by decide
  obtain ⟨path, reached, held, -⟩ := endpoint_holds_names_iff read rfl nonempty
  exact ⟨⟨read, rfl, nonempty⟩, path, reached, held.mpr plain⟩

/--
A name is merged with another when its tabulator is dropped, and one that is two dots without
it leads out of the users of the server.
-/
theorem endpoint_merges_names :
    let beneath (path : List String) : Url :=
      ⟨"http", some ⟨"", none, "sd", some 5820⟩, false, path, none, none⟩
    onNetwork.endpoint ["admin", "databases", "ab"] = .ok (beneath ["admin", "databases", "ab"]) ∧
      onNetwork.endpoint ["admin", "databases", "a\tb"] =
        .ok (beneath ["admin", "databases", "ab"]) ∧
      onNetwork.endpoint ["admin", "users", ".\t."] = .ok (beneath ["admin", ""]) := by
  intro beneath
  have reached (names : List String) :
      onNetwork.endpoint names = .ok ((beneath [""]).extend names) :=
    endpoint_eq_ok rfl names
  simp only [reached, Except.ok.injEq]
  decide

end Client

end GraphBroker.Remote
