import Mathlib.Data.List.Nodup
import Mathlib.Data.Prod.Lex
import VirtualMonitor.Proofs.Card.Number
import VirtualMonitor.Proofs.Text.Utf8

/-!
# The listing of card nodes

A directory is listed in whatever order, and `nodes` keeps the card nodes and puts them in one
order of its own: by number, and by path where the numbers leave it open (`StandsBefore`).  Two
nodes of a directory have different paths, so that nothing is left open.

A node without a number takes the place of the greatest word, which is a number that nodes can
have.  Nodes without a number come last only as long as no node has this one.

* `card_nodes_in_order`: what is listed, in which order, and when there is no listing.
* `number_first_unless_greatest`: when a node with a number comes before one without.
-/

namespace VirtualMonitor.Card

/-! ## What is listed -/

/-- The names that a directory holds: no two are the same, and no slash is in any. -/
structure AreEntries (names : List (List UInt8)) : Prop where
  nodup : names.Nodup
  slash_notMem : ∀ name ∈ names, Path.slash ∉ name

theorem isNodeName_iff {name : String} :
    isNodeName name = true ↔
      "card".toList <+: name.toList ∧ ¬"render".toList <:+: name.toList := by
  rw [isNodeName, Bool.and_eq_true, List.isPrefixOf_iff_prefix, Bool.not_eq_true',
    Bool.eq_false_iff, Ne, Text.occursIn_iff_isInfix]

theorem isEntry_of_isNodeName {name : String} (hname : isNodeName name = true)
    (hslash : Path.slash ∉ Text.utf8 name) : Path.IsEntry (Text.utf8 name) := by
  obtain ⟨rest, hrest⟩ := (isNodeName_iff.mp hname).1
  have hbytes : Text.utf8 name = stem ++ rest.flatMap String.utf8EncodeChar := by
    rw [Text.utf8, ← hrest, List.flatMap_append]
    rfl
  rw [hbytes] at hslash ⊢
  exact isEntry_stem_append fun hrest => hslash (List.mem_append_right _ hrest)

variable {entries : List (List UInt8)} {name : String}

theorem mem_nodeNames :
    name ∈ nodeNames entries ↔ Text.utf8 name ∈ entries ∧ isNodeName name = true := by
  have htext : name ∈ entries.filterMap Text.ofUtf8? ↔ Text.utf8 name ∈ entries := by
    simp only [List.mem_filterMap, Text.ofUtf8?_eq_some_iff, exists_eq_right]
  rw [nodeNames, List.mem_mergeSort, List.mem_filter, htext]

theorem isEntry_of_mem_nodeNames (hentries : AreEntries entries) (hname : name ∈ nodeNames entries) :
    Path.IsEntry (Text.utf8 name) := by
  obtain ⟨hmem, hnode⟩ := mem_nodeNames.mp hname
  exact isEntry_of_isNodeName hnode (hentries.slash_notMem _ hmem)

theorem nodup_nodeNames (hentries : AreEntries entries) : (nodeNames entries).Nodup := by
  rw [nodeNames, (List.mergeSort_perm _ _).nodup_iff]
  apply List.Nodup.filter
  apply List.Nodup.filterMap _ hentries.nodup
  intro first second text hfirst hsecond
  rw [Text.ofUtf8?_eq_some_iff.mp hfirst, Text.ofUtf8?_eq_some_iff.mp hsecond]

/-! ## One order of names -/

def sortKey (name : String) : ℕ ×ₗ String := toLex ((place name).toNat, name)

theorem listedBefore_iff {first second : String} :
    listedBefore first second = true ↔ sortKey first ≤ sortKey second := by
  simp only [listedBefore, sortKey, Prod.Lex.toLex_le_toLex, Bool.or_eq_true, Bool.and_eq_true,
    decide_eq_true_eq, beq_iff_eq, UInt32.lt_iff_toNat_lt, UInt32.toNat_inj]

theorem sorted_nodeNames (entries : List (List UInt8)) :
    (nodeNames entries).Pairwise fun first second => sortKey first ≤ sortKey second := by
  have htrans (first second third : String) (hfirst : listedBefore first second = true)
      (hsecond : listedBefore second third = true) : listedBefore first third = true :=
    listedBefore_iff.mpr ((listedBefore_iff.mp hfirst).trans (listedBefore_iff.mp hsecond))
  have htotal (first second : String) :
      (listedBefore first second || listedBefore second first) = true := by
    rw [Bool.or_eq_true, listedBefore_iff, listedBefore_iff]
    exact le_total _ _
  exact (List.pairwise_mergeSort htrans htotal _).imp listedBefore_iff.mp

/-- The names in order are those of the nodes, and no other arrangement of these is in order. -/
theorem nodeNames_eq {names : List String}
    (hperm : names.Perm ((entries.filterMap Text.ofUtf8?).filter isNodeName))
    (hsorted : names.Pairwise fun first second => sortKey first ≤ sortKey second) :
    nodeNames entries = names :=
  ((List.mergeSort_perm _ _).trans hperm.symm).eq_of_pairwise
    (fun _ _ _ _ hle hge => congrArg (fun key => (ofLex key).2) (le_antisymm hle hge))
    (sorted_nodeNames entries) hsorted

theorem nodeNames_of_perm {others : List (List UInt8)} (hperm : entries.Perm others) :
    nodeNames entries = nodeNames others :=
  nodeNames_eq ((List.mergeSort_perm _ _).trans ((hperm.symm.filterMap _).filter _))
    (sorted_nodeNames others)

/-! ## One order of paths -/

/-- The place of a path in the listing: its number, or the greatest one if it has none. -/
def placeOf (path : String) : ℕ :=
  ((number? (Text.utf8 path)).map UInt32.toNat).getD 4294967295

/-- A path stands before another one in the listing. -/
def StandsBefore (first second : String) : Prop :=
  placeOf first < placeOf second ∨ placeOf first = placeOf second ∧ Path.Precedes first second

theorem StandsBefore.asymm {first second : String} (hbefore : StandsBefore first second) :
    ¬StandsBefore second first := by
  rintro (hlt | ⟨heq, hprecedes⟩)
  · rcases hbefore with hgt | ⟨heq, -⟩ <;> omega
  · rcases hbefore with hgt | ⟨-, hafter⟩
    · omega
    · exact List.lt_asymm hprecedes hafter

theorem placeOf_join (directory : String) (hname : Path.IsEntry (Text.utf8 name)) :
    placeOf (Path.join directory name) = (place name).toNat := by
  rw [placeOf, place, Path.utf8_join, number?_joinBytes _ hname]
  cases numberOfName? (Text.utf8 name) <;> rfl

theorem standsBefore_join_iff (directory : String) {first second : String}
    (hfirst : Path.IsEntry (Text.utf8 first)) (hsecond : Path.IsEntry (Text.utf8 second)) :
    StandsBefore (Path.join directory first) (Path.join directory second) ↔
      sortKey first < sortKey second := by
  rw [StandsBefore, placeOf_join directory hfirst, placeOf_join directory hsecond,
    Path.precedes_join_iff directory hfirst hsecond, sortKey, sortKey, Prod.Lex.toLex_lt_toLex]

def listing (directory : String) (entries : List (List UInt8)) : List String :=
  (nodeNames entries).map (Path.join directory)

theorem nodes_eq_ok {files : Files} {directory : String} {content : List (List UInt8 × FileTree)}
    (hfind : files.find? directory = some (.directory content)) :
    nodes files directory = .ok (listing directory (content.map Prod.fst)) := by
  have hnames : files.names? directory = some (content.map Prod.fst) := by
    rw [Files.names?, hfind]
  rw [nodes, hnames, listing]

/-- There is no listing exactly if the path leads to no directory. -/
theorem nodes_eq_error_iff {files : Files} {directory : String} {error : Error} :
    nodes files directory = .error error ↔ error = .unreadableDirectory directory ∧
      ∀ content, files.find? directory ≠ some (.directory content) := by
  constructor
  · intro herror
    -- a directory would have been listed
    have hfind : ∀ content, files.find? directory ≠ some (.directory content) := by
      intro content hfind
      rw [nodes_eq_ok hfind] at herror
      cases herror
    refine ⟨?_, hfind⟩
    unfold nodes at herror
    split at herror
    next => cases herror
    next => exact (Except.error.inj herror).symm
  · rintro ⟨rfl, hfind⟩
    have hnames : files.names? directory = none := by
      unfold Files.names?
      split
      next content hcontent => exact absurd hcontent (hfind content)
      next => rfl
    rw [nodes, hnames]

/-- The listing is in strict order. -/
theorem sorted_listing (directory : String) (hentries : AreEntries entries) :
    (listing directory entries).Pairwise StandsBefore := by
  -- sorted without repetition: equal keys would be equal names
  have hstrict : (nodeNames entries).Pairwise fun first second => sortKey first < sortKey second :=
    (sorted_nodeNames entries).imp₂ (fun first second hle hne =>
      lt_of_le_of_ne hle fun heq => hne (congrArg (fun key => (ofLex key).2) heq))
      (nodup_nodeNames hentries)
  refine List.pairwise_map.mpr (hstrict.imp_of_mem fun hfirst hsecond hlt => ?_)
  exact (standsBefore_join_iff directory (isEntry_of_mem_nodeNames hentries hfirst)
    (isEntry_of_mem_nodeNames hentries hsecond)).mpr hlt

/-! ## The listing of a directory -/

/-- There is no listing exactly if the path leads to no directory; the error names the path.

A directory has a listing, of each entry whose name is text, starts with the stem and does not
hold the word of render nodes, once, and of nothing else.  It is in strict order, by the number
or the greatest one and then by the path.  It is the same for all directories with these
entries, in whatever order they come and whatever is in them. -/
theorem card_nodes_in_order (files : Files) (directory : String) :
    (∀ error, nodes files directory = .error error ↔ error = .unreadableDirectory directory ∧
      ∀ content, files.find? directory ≠ some (.directory content)) ∧
    ∀ content, files.find? directory = some (.directory content) →
      AreEntries (content.map Prod.fst) →
      ∃ names : List String, nodes files directory = .ok (names.map (Path.join directory)) ∧
        names.Nodup ∧
        (∀ name, name ∈ names ↔ Text.utf8 name ∈ content.map Prod.fst ∧
          "card".toList <+: name.toList ∧ ¬"render".toList <:+: name.toList) ∧
        (names.map (Path.join directory)).Nodup ∧
        (names.map (Path.join directory)).Pairwise StandsBefore ∧
        ∀ (other : Files) (reordered : List (List UInt8 × FileTree)),
          other.find? directory = some (.directory reordered) →
          (reordered.map Prod.fst).Perm (content.map Prod.fst) →
          nodes other directory = nodes files directory := by
  refine ⟨fun error => nodes_eq_error_iff, fun content hfind hentries => ?_⟩
  refine ⟨nodeNames (content.map Prod.fst), nodes_eq_ok hfind, nodup_nodeNames hentries,
    fun name => ?_, ?_, sorted_listing directory hentries, ?_⟩
  · rw [mem_nodeNames, isNodeName_iff]
  · -- nothing stands before itself
    refine (sorted_listing directory hentries).imp ?_
    rintro first _ hbefore rfl
    exact hbefore.asymm hbefore
  · intro other reordered hother hperm
    rw [nodes_eq_ok hother, nodes_eq_ok hfind, listing, listing, nodeNames_of_perm hperm]

/-- One number is written in three ways, and three nodes share the greatest place, one of them
with the greatest number.  Render nodes, a name with the stem further on and one that is no text
are left out.  The listing is the same when the directory is read from its end. -/
theorem card_nodes_in_order_ties :
    let entries := ["cardX", "card1", "renderD128", "card-render", "card4294967295", "card+1",
      "mycard0", "card", "card01"].map Text.utf8 ++ [Text.utf8 "card" ++ [0xFF]]
    let content := entries.map fun name => (name, FileTree.file [])
    let filesOf (content : List (List UInt8 × FileTree)) : Files :=
      ⟨fun _ => some (.directory content)⟩
    let paths := ["/dri/card+1", "/dri/card01", "/dri/card1", "/dri/card",
      "/dri/card4294967295", "/dri/cardX"]
    AreEntries (content.map Prod.fst) ∧ nodes (filesOf content) "/dri" = .ok paths ∧
      paths.Pairwise StandsBefore ∧ nodes (filesOf content.reverse) "/dri" = .ok paths := by
  intro entries content filesOf paths
  have hentries : AreEntries (content.map Prod.fst) := ⟨by decide +kernel, by decide +kernel⟩
  have hlisted : nodeNames (content.map Prod.fst) = ["card+1", "card01", "card1", "card",
      "card4294967295", "cardX"] := nodeNames_eq (by decide +kernel) (by decide +kernel)
  have hnodes : nodes (filesOf content) "/dri" = .ok paths := by
    rw [nodes_eq_ok rfl, listing, hlisted]
    decide +kernel
  obtain ⟨names, hnames, -, -, -, hsorted, hsame⟩ :=
    (card_nodes_in_order (filesOf content) "/dri").2 content rfl hentries
  have hpaths : names.map (Path.join "/dri") = paths :=
    Except.ok.inj (hnames.symm.trans hnodes)
  refine ⟨hentries, hnodes, hpaths ▸ hsorted, ?_⟩
  rw [hsame _ content.reverse rfl (content.reverse_perm.map Prod.fst), hnodes]

/-! ## Nodes with and without a number -/

/-- Of two members of a list one comes first. -/
private theorem pair_sublist_or {α : Type*} {items : List α} {first second : α}
    (hfirst : first ∈ items) (hsecond : second ∈ items) (hne : first ≠ second) :
    [first, second].Sublist items ∨ [second, first].Sublist items := by
  obtain ⟨before, after, rfl⟩ := List.append_of_mem hfirst
  rcases List.mem_append.mp hsecond with hbefore | hafter
  · right
    exact (List.singleton_sublist.mpr hbefore).append
      (List.singleton_sublist.mpr List.mem_cons_self)
  · left
    rcases List.mem_cons.mp hafter with rfl | hafter
    · exact absurd rfl hne
    · exact ((List.singleton_sublist.mpr hafter).cons_cons first).trans
        (List.sublist_append_right before _)

/-- In a listing one path comes before another one exactly if it stands before it. -/
theorem pair_sublist_iff {paths : List String} (hsorted : paths.Pairwise StandsBefore)
    {first second : String} (hfirst : first ∈ paths) (hsecond : second ∈ paths)
    (hne : first ≠ second) :
    [first, second].Sublist paths ↔ StandsBefore first second := by
  constructor
  · exact fun hpair => List.pairwise_iff_forall_sublist.mp hsorted hpair
  · intro hbefore
    rcases pair_sublist_or hfirst hsecond hne with hpair | hpair
    · exact hpair
    · exact absurd (List.pairwise_iff_forall_sublist.mp hsorted hpair) hbefore.asymm

theorem placeOf_of_number? {path : String} {number : UInt32}
    (hnumber : number? (Text.utf8 path) = some number) : placeOf path = number.toNat := by
  rw [placeOf, hnumber]
  rfl

theorem placeOf_of_none {path : String} (hnone : number? (Text.utf8 path) = none) :
    placeOf path = 4294967295 := by
  rw [placeOf, hnone]
  rfl

/-- A node without a number can stand before none with a number but the greatest one. -/
theorem standsBefore_of_none_iff {bare numbered : String} {number : UInt32}
    (hnone : number? (Text.utf8 bare) = none)
    (hnumber : number? (Text.utf8 numbered) = some number) :
    StandsBefore bare numbered ↔ number = 4294967295 ∧ Path.Precedes bare numbered := by
  have hlt := number.toNat_lt
  have hgreatest : number = 4294967295 ↔ number.toNat = 4294967295 := UInt32.toNat_inj.symm
  rw [StandsBefore, placeOf_of_none hnone, placeOf_of_number? hnumber, hgreatest]
  constructor
  · rintro (hplace | ⟨hplace, hprecedes⟩)
    · omega
    · exact ⟨hplace.symm, hprecedes⟩
  · rintro ⟨hplace, hprecedes⟩
    exact .inr ⟨hplace.symm, hprecedes⟩

/-- What is in order has its numbers in order, whatever stands between them. -/
theorem numbers_rise {paths : List String} (hsorted : paths.Pairwise StandsBefore) :
    (paths.filterMap fun path => number? (Text.utf8 path)).Pairwise (· ≤ ·) := by
  refine List.pairwise_filterMap.mpr (hsorted.imp fun {first second} hbefore => ?_)
  intro lesser hlesser greater hgreater
  rw [UInt32.le_iff_toNat_le, ← placeOf_of_number? hlesser, ← placeOf_of_number? hgreater]
  rcases hbefore with hlt | ⟨heq, -⟩ <;> omega

/-- The numbers of a listing rise.  A node with a number comes before one without, unless its
number is the greatest one and the other path precedes its own; then it comes after it. -/
theorem number_first_unless_greatest {files : Files} {directory : String}
    {content : List (List UInt8 × FileTree)}
    (hfind : files.find? directory = some (.directory content))
    (hentries : AreEntries (content.map Prod.fst)) :
    ∃ paths : List String, nodes files directory = .ok paths ∧
      (paths.filterMap fun path => number? (Text.utf8 path)).Pairwise (· ≤ ·) ∧
      ∀ bare ∈ paths, ∀ numbered ∈ paths, ∀ number,
        number? (Text.utf8 bare) = none → number? (Text.utf8 numbered) = some number →
        ([bare, numbered].Sublist paths ↔ number = 4294967295 ∧ Path.Precedes bare numbered) ∧
        ([numbered, bare].Sublist paths ↔
          ¬(number = 4294967295 ∧ Path.Precedes bare numbered)) := by
  have hsorted := sorted_listing directory hentries
  refine ⟨_, nodes_eq_ok hfind, numbers_rise hsorted, ?_⟩
  intro bare hbare numbered hnumbered number hnone hnumber
  have hne : bare ≠ numbered := by
    rintro rfl
    rw [hnone] at hnumber
    cases hnumber
  -- the two differ, so in the listing one of them comes first
  have hbefore := pair_sublist_iff hsorted hbare hnumbered hne
  have hafter := pair_sublist_iff hsorted hnumbered hbare hne.symm
  rw [← standsBefore_of_none_iff hnone hnumber]
  refine ⟨hbefore, fun hpair hstands => (hafter.mp hpair).asymm hstands, fun hstands => ?_⟩
  rcases pair_sublist_or hbare hnumbered hne with hpair | hpair
  · exact absurd (hbefore.mp hpair) hstands
  · exact hpair

/-- The number of one node is the greatest, and of the paths without a number one precedes its
own and one does not. -/
theorem number_first_unless_greatest_between :
    let content := ["cardz", "card4294967295", "card12", "card+"].map fun name =>
      (Text.utf8 name, FileTree.file [])
    let files : Files := ⟨fun _ => some (.directory content)⟩
    files.find? "/dri" = some (.directory content) ∧ AreEntries (content.map Prod.fst) ∧
      ∃ paths, nodes files "/dri" = .ok paths ∧
        ["/dri/card+", "/dri/card4294967295"].Sublist paths ∧
        ["/dri/card4294967295", "/dri/cardz"].Sublist paths ∧
        ["/dri/card12", "/dri/card+"].Sublist paths := by
  intro content files
  have hentries : AreEntries (content.map Prod.fst) := ⟨by decide +kernel, by decide +kernel⟩
  have hfind : files.find? "/dri" = some (.directory content) := rfl
  have hlisted : nodeNames (content.map Prod.fst) = ["card12", "card+", "card4294967295",
      "cardz"] := nodeNames_eq (by decide +kernel) (by decide +kernel)
  obtain ⟨paths, hnodes, -, hpairs⟩ := number_first_unless_greatest hfind hentries
  have hpaths : paths = ["/dri/card12", "/dri/card+", "/dri/card4294967295", "/dri/cardz"] := by
    rw [nodes_eq_ok hfind, listing, hlisted] at hnodes
    exact (Except.ok.inj hnodes).symm.trans (by decide +kernel)
  refine ⟨hfind, hentries, paths, hnodes, ?_, ?_, ?_⟩
  · exact ((hpairs _ (by simp [hpaths]) _ (by simp [hpaths]) 4294967295 (by decide +kernel)
      (by decide +kernel)).1).mpr (by decide +kernel)
  · exact ((hpairs _ (by simp [hpaths]) _ (by simp [hpaths]) 4294967295 (by decide +kernel)
      (by decide +kernel)).2).mpr (by decide +kernel)
  · exact ((hpairs _ (by simp [hpaths]) _ (by simp [hpaths]) 12 (by decide +kernel)
      (by decide +kernel)).2).mpr (by decide +kernel)

/-- A node with the greatest number comes after one without a number. -/
theorem greatest_number_after_none :
    let content := [(Text.utf8 "card", FileTree.file []),
      (Text.utf8 "card4294967295", FileTree.file [])]
    let files : Files := ⟨fun _ => some (.directory content)⟩
    AreEntries (content.map Prod.fst) ∧
      nodes files "dri" = .ok ["dri/card", "dri/card4294967295"] ∧
      number? (Text.utf8 "dri/card") = none ∧
      number? (Text.utf8 "dri/card4294967295") = some 4294967295 := by
  intro content files
  have hlisted : nodeNames (content.map Prod.fst) = ["card", "card4294967295"] :=
    nodeNames_eq (by decide +kernel) (by decide +kernel)
  refine ⟨⟨by decide +kernel, by decide +kernel⟩, ?_, by decide +kernel, by decide +kernel⟩
  rw [nodes_eq_ok rfl, listing, hlisted]
  decide +kernel

end VirtualMonitor.Card
