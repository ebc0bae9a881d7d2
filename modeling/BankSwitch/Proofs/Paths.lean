import BankSwitch.Files

/-!
# Tidy paths

A path leads where its tidy form leads, as long as it does not end in an idle part: behind a file
nothing can be looked up, not even a part that stays where it is.  So a text that is read from a path
is read from its tidy form as well (`Files.read_tidyPath_of_read`), and the other way round if the path
does not end in an idle part (`Files.read_tidyPath`).
-/

namespace BankSwitch

/-! ## parts -/

theorem not_mem_of_mem_splitOn {c : Char} (s : List Char) : ∀ p ∈ s.splitOn c, c ∉ p := by
  induction s with
  | nil =>
    rw [List.splitOn_nil]
    exact List.forall_mem_singleton.mpr List.not_mem_nil
  | cons d s ih =>
    rw [List.splitOn_cons_eq_if_modifyHead]
    split
    · exact List.forall_mem_cons.mpr ⟨List.not_mem_nil, ih⟩
    · next other =>
      cases hs : s.splitOn c with
      | nil => exact absurd hs (List.splitOn_ne_nil c s)
      | cons p ps =>
        rw [hs] at ih
        obtain ⟨hp, hps⟩ := List.forall_mem_cons.mp ih
        refine List.forall_mem_cons.mpr ⟨fun h => ?_, hps⟩
        obtain rfl | h := List.mem_cons.mp h
        · exact other (beq_self_eq_true c)
        · exact hp h

theorem not_mem_of_mem_pathParts {name p : String} (h : p ∈ pathParts name) : '/' ∉ p.toList := by
  obtain ⟨s, hs, rfl⟩ := List.mem_map.mp h
  rw [String.toList_ofList]
  exact not_mem_of_mem_splitOn _ s hs

theorem pathParts_ne_nil (name : String) : pathParts name ≠ [] := by
  unfold pathParts
  rw [ne_eq, List.map_eq_nil_iff]
  exact List.splitOn_ne_nil _ _

theorem pathParts_slash (name : String) : pathParts ("/" ++ name) = "" :: pathParts name := by
  unfold pathParts
  have text : ("/" ++ name).toList = '/' :: name.toList := String.toList_append
  rw [text, List.splitOn_cons_eq_if_modifyHead, if_pos (beq_self_eq_true _)]
  rfl

theorem pathParts_intercalate {ps : List String} (hne : ps ≠ []) (h : ∀ p ∈ ps, '/' ∉ p.toList) :
    pathParts ("/".intercalate ps) = ps := by
  have lists : ∀ l ∈ ps.map String.toList, '/' ∉ l := by
    intro l hl
    obtain ⟨p, hp, rfl⟩ := List.mem_map.mp hl
    exact h p hp
  have text : ("/".intercalate ps).toList = ['/'].intercalate (ps.map String.toList) :=
    String.toList_intercalate
  unfold pathParts
  rw [text, List.splitOn_intercalate _ lists (by rwa [ne_eq, List.map_eq_nil_iff]), List.map_map]
  exact (List.map_congr_left fun p _ => String.ofList_toList).trans (List.map_id ps)

theorem intercalate_pathParts (name : String) : "/".intercalate (pathParts name) = name := by
  apply String.toList_inj.mp
  have lists : (pathParts name).map String.toList = name.toList.splitOn '/' := by
    unfold pathParts
    rw [List.map_map]
    exact (List.map_congr_left fun _ _ => String.toList_ofList).trans (List.map_id _)
  rw [String.toList_intercalate, lists]
  exact List.intercalate_splitOn '/'

/-! ## roots and idle parts -/

def isRooted (name : String) : Bool := "/".toList.isPrefixOf name.toList

/-- the parts that do not stay where they are -/
def liveParts (name : String) : List String := (pathParts name).filter fun p => !isIdle p

/-- the last of the parts is idle -/
def endsIdle (ps : List String) : Bool := ps.getLast?.any isIdle

theorem endsIdle_cons_cons (p q : String) (ps : List String) :
    endsIdle (p :: q :: ps) = endsIdle (q :: ps) := by
  unfold endsIdle
  rw [List.getLast?_cons_cons]

theorem live_of_endsIdle {ps : List String} (hne : ps ≠ []) (h : endsIdle ps = false) :
    ∃ p ∈ ps, isIdle p = false := by
  have last := List.getLast?_eq_some_getLast hne
  unfold endsIdle at h
  rw [last] at h
  exact ⟨_, List.getLast_mem hne, h⟩

theorem isRooted_slash (name : String) : isRooted ("/" ++ name) = true := by
  have text : ("/" ++ name).toList = '/' :: name.toList := String.toList_append
  unfold isRooted
  rw [text]
  rfl

theorem eq_slash_of_isRooted {name : String} (h : isRooted name = true) :
    ∃ rest, name = "/" ++ rest := by
  obtain ⟨s, hs⟩ := List.isPrefixOf_iff_prefix.mp h
  refine ⟨String.ofList s, String.toList_inj.mp ?_⟩
  have text : (String.ofList s).toList = s := String.toList_ofList
  rw [← hs, String.toList_append, text]

/-- a path with a first part that is not empty does not start at the root -/
theorem isRooted_of_pathParts {name p : String} {ps : List String} (h : pathParts name = p :: ps)
    (hp : p ≠ "") : isRooted name = false := by
  refine Bool.eq_false_iff.mpr fun rooted => ?_
  obtain ⟨rest, rfl⟩ := eq_slash_of_isRooted rooted
  rw [pathParts_slash] at h
  exact hp (List.cons.inj h).1.symm

theorem isRooted_of_empty {name q : String} {ps : List String} (h : pathParts name = "" :: q :: ps) :
    isRooted name = true := by
  rw [← intercalate_pathParts name, h, String.intercalate_cons_cons, String.empty_append]
  exact isRooted_slash _

theorem ne_empty_of_mem_liveParts {name p : String} (h : p ∈ liveParts name) :
    p ≠ "" ∧ isIdle p = false := by
  have live := (List.mem_filter.mp h).2
  rw [Bool.not_eq_true'] at live
  refine ⟨?_, live⟩
  rintro rfl
  cases live

/-! ## tidy paths -/

/-- the slashes in front of a tidy path -/
def rootText (name : String) : String :=
  if "///".toList.isPrefixOf name.toList then "/"
  else if "//".toList.isPrefixOf name.toList then "//"
  else if "/".toList.isPrefixOf name.toList then "/" else ""

theorem rootText_cases (name : String) :
    rootText name = "" ∧ isRooted name = false ∨
      (rootText name = "/" ∨ rootText name = "//") ∧ isRooted name = true := by
  have rooted {t : String} (ht : "/".toList <+: t.toList)
      (h : t.toList.isPrefixOf name.toList = true) : isRooted name = true :=
    List.isPrefixOf_iff_prefix.mpr (ht.trans (List.isPrefixOf_iff_prefix.mp h))
  unfold rootText
  split
  · next h => exact .inr ⟨.inl rfl, rooted ⟨['/', '/'], rfl⟩ h⟩
  · split
    · next h => exact .inr ⟨.inr rfl, rooted ⟨['/'], rfl⟩ h⟩
    · split
      · next h => exact .inr ⟨.inl rfl, h⟩
      · next h => exact .inl ⟨rfl, Bool.eq_false_iff.mpr h⟩

theorem pathParts_liveParts {name : String} (h : liveParts name ≠ []) :
    pathParts ("/".intercalate (liveParts name)) = liveParts name :=
  pathParts_intercalate h fun _ hp => not_mem_of_mem_pathParts (List.mem_filter.mp hp).1

theorem tidyPath_eq {name : String} (h : liveParts name ≠ []) :
    tidyPath name = rootText name ++ "/".intercalate (liveParts name) := by
  have shape : rootText name ++ "/".intercalate (liveParts name) ≠ "" := by
    intro empty
    have parts := pathParts_liveParts h
    rw [(String.append_eq_empty_iff.mp empty).2] at parts
    have mem : "" ∈ liveParts name := parts ▸ List.mem_cons_self
    exact (ne_empty_of_mem_liveParts mem).1 rfl
  exact if_neg shape

/-- a tidy path has the same root, and of the parts those that are not idle, behind the slashes of the
root -/
theorem parts_tidyPath {name : String} (h : liveParts name ≠ []) :
    isRooted (tidyPath name) = isRooted name ∧
      ∃ idle, (∀ p ∈ idle, isIdle p = true) ∧
        pathParts (tidyPath name) = idle ++ liveParts name := by
  have parts := pathParts_liveParts h
  rw [tidyPath_eq h]
  obtain ⟨root, rooted⟩ | ⟨root | root, rooted⟩ := rootText_cases name
  · rw [root, rooted, String.empty_append]
    refine ⟨?_, [], List.forall_mem_nil _, parts⟩
    obtain ⟨p, ps, live⟩ := List.exists_cons_of_ne_nil h
    have mem : p ∈ liveParts name := live ▸ List.mem_cons_self
    exact isRooted_of_pathParts (parts.trans live) (ne_empty_of_mem_liveParts mem).1
  · rw [root, rooted]
    exact ⟨isRooted_slash _, [""], by decide, by rw [pathParts_slash, parts]; rfl⟩
  · have slashes : "//" ++ "/".intercalate (liveParts name) =
        "/" ++ ("/" ++ "/".intercalate (liveParts name)) := by
      rw [← String.append_assoc]
      rfl
    rw [root, rooted, slashes]
    exact ⟨isRooted_slash _, ["", ""], by decide,
      by rw [pathParts_slash, pathParts_slash, parts]; rfl⟩

theorem liveParts_tidyPath {name : String} (h : liveParts name ≠ []) :
    liveParts (tidyPath name) = liveParts name := by
  obtain ⟨-, idle, all, parts⟩ := parts_tidyPath h
  have none : idle.filter (fun p => !isIdle p) = [] := by
    rw [List.filter_eq_nil_iff]
    intro p hp
    rw [all p hp]
    decide
  have again : (liveParts name).filter (fun p => !isIdle p) = liveParts name :=
    List.filter_eq_self.mpr fun p hp => (List.mem_filter.mp hp).2
  rw [liveParts, parts, List.filter_append, none, again, List.nil_append]

theorem endsIdle_tidyPath {name : String} (h : liveParts name ≠ []) :
    endsIdle (pathParts (tidyPath name)) = false := by
  obtain ⟨-, idle, -, parts⟩ := parts_tidyPath h
  unfold endsIdle
  rw [parts, List.getLast?_append, List.getLast?_eq_some_getLast h, Option.some_or]
  exact (ne_empty_of_mem_liveParts (List.getLast_mem h)).2

theorem mem_intercalate {c : Char} (hc : c ≠ '/') (ps : List String) :
    c ∈ ("/".intercalate ps).toList ↔ ∃ p ∈ ps, c ∈ p.toList := by
  induction ps with
  | nil =>
    rw [String.intercalate_nil]
    exact ⟨fun h => (nomatch h), fun ⟨_, h, _⟩ => (nomatch h)⟩
  | cons p ps ih =>
    simp only [List.mem_cons, exists_eq_or_imp]
    cases ps with
    | nil =>
      rw [String.intercalate_singleton]
      exact ⟨.inl, fun h => h.resolve_right fun ⟨_, h, _⟩ => (nomatch h)⟩
    | cons q ps =>
      have slash : "/".toList = ['/'] := rfl
      rw [String.intercalate_cons_cons, String.toList_append, String.toList_append, List.mem_append,
        List.mem_append, ih, slash, List.mem_singleton, or_iff_left hc]

/-- a character that idle parts do not have is in a path if it is in one of the other parts -/
theorem mem_path_iff {c : Char} (slash : c ≠ '/') (dot : c ≠ '.') (name : String) :
    c ∈ name.toList ↔ ∃ p ∈ liveParts name, c ∈ p.toList := by
  rw [← intercalate_pathParts name, mem_intercalate slash, intercalate_pathParts]
  constructor
  · rintro ⟨p, hp, hc⟩
    refine ⟨p, List.mem_filter.mpr ⟨hp, ?_⟩, hc⟩
    rw [Bool.not_eq_true', isIdle, Bool.or_eq_false_iff, decide_eq_false_iff_not,
      decide_eq_false_iff_not]
    refine ⟨?_, ?_⟩
    · rintro rfl
      cases hc
    · rintro rfl
      exact dot (List.mem_singleton.mp hc)
  · rintro ⟨p, hp, hc⟩
    exact ⟨p, (List.mem_filter.mp hp).1, hc⟩

theorem contains_tidyPath {name : String} (h : liveParts name ≠ []) :
    (tidyPath name).toList.contains '\x00' = name.toList.contains '\x00' := by
  have slash : '\x00' ≠ '/' := by decide
  have dot : '\x00' ≠ '.' := by decide
  rw [Bool.eq_iff_iff, List.contains_iff_mem, List.contains_iff_mem, mem_path_iff slash dot,
    mem_path_iff slash dot, liveParts_tidyPath h]

/-! ## looking up -/

namespace Files

variable (fs : Files)

/-- idle parts can be left out, except at the end -/
theorem walk_live (here ps : List String) (h : endsIdle ps = false) :
    fs.walk here ps = fs.walk here (ps.filter fun p => !isIdle p) := by
  induction ps generalizing here with
  | nil => rfl
  | cons p ps ih =>
    have rest : ps ≠ [] → endsIdle ps = false := by
      intro hne
      obtain ⟨q, qs, rfl⟩ := List.exists_cons_of_ne_nil hne
      exact (endsIdle_cons_cons p q qs).symm.trans h
    have later (there : List String) :
        fs.walk there ps = fs.walk there (ps.filter fun p => !isIdle p) := by
      by_cases hne : ps = []
      · rw [hne]
        rfl
      · exact ih there (rest hne)
    by_cases idle : isIdle p = true
    · rw [walk, if_pos idle, List.filter_cons_of_neg (by rw [idle]; decide), later]
    · have kept : (p :: ps).filter (fun p => !isIdle p) = p :: ps.filter fun p => !isIdle p :=
        List.filter_cons_of_pos (by rw [Bool.eq_false_iff.mpr idle]; rfl)
      rw [kept, walk, walk, if_neg idle, if_neg idle]
      dsimp only
      rw [later, later]
      -- behind a file or nothing, it matters only that something follows that is not idle
      by_cases hne : ps = []
      · rw [hne]
        rfl
      · obtain ⟨q, hq, live⟩ := live_of_endsIdle hne (rest hne)
        have mem : q ∈ ps.filter fun p => !isIdle p :=
          List.mem_filter.mpr ⟨hq, by rw [live]; rfl⟩
        have named : q ≠ "" := by
          rintro rfl
          cases live
        have follows {qs : List String} (h : q ∈ qs) :
            qs.isEmpty = false ∧ qs.all (· = "") = false := by
          refine ⟨List.isEmpty_eq_false_iff.mpr (List.ne_nil_of_mem h), ?_⟩
          rw [List.all_eq_false]
          exact ⟨q, h, by rw [decide_eq_false named]; decide⟩
        rw [(follows hq).1, (follows hq).2, (follows mem).1, (follows mem).2]

/-- no idle part stands behind a file -/
theorem endsIdle_of_walk {here ps path : List String} (h : fs.walk here ps = .file path) :
    endsIdle ps = false := by
  induction ps generalizing here with
  | nil => rfl
  | cons p ps ih =>
    cases ps with
    | nil =>
      rw [walk] at h
      split at h
      · cases h
      · next live => exact Bool.eq_false_iff.mpr live
    | cons q ps =>
      rw [endsIdle_cons_cons]
      rw [walk] at h
      split at h
      · exact ih h
      · split at h
        · exact ih h
        · dsimp only at h
          split at h
          · exact ih h
          · rw [List.isEmpty_cons, if_neg Bool.false_ne_true] at h
            split at h
            · cases h
            · split at h <;> cases h

/-- where a path leads that does not end in an idle part -/
theorem locate_live {name : String} (h : endsIdle (pathParts name) = false) :
    fs.locate name = if name.toList.contains '\x00' then .error .nullByte
      else .ok (fs.walk (if isRooted name then [] else fs.here) (liveParts name)) := by
  unfold locate
  split
  · rfl
  · split
    · next none => exact absurd none (pathParts_ne_nil name)
    · next empty =>
      rw [empty] at h
      cases h
    · next ps lone parts =>
      -- a first part that is empty is the root, and the path goes on
      obtain ⟨q, qs, rfl⟩ := List.exists_cons_of_ne_nil lone
      have live : liveParts name = (q :: qs).filter fun p => !isIdle p := by
        unfold liveParts
        rw [parts]
        rfl
      rw [parts, endsIdle_cons_cons] at h
      rw [isRooted_of_empty parts, live, if_pos rfl, fs.walk_live _ _ h]
    · next _ root =>
      obtain ⟨p, ps, parts⟩ := List.exists_cons_of_ne_nil (pathParts_ne_nil name)
      have named : p ≠ "" := by
        rintro rfl
        exact root ps parts
      rw [isRooted_of_pathParts parts named, fs.walk_live _ _ h]
      rfl

theorem liveParts_ne_nil {name : String} (h : endsIdle (pathParts name) = false) :
    liveParts name ≠ [] := by
  obtain ⟨p, hp, live⟩ := live_of_endsIdle (pathParts_ne_nil name) h
  exact List.ne_nil_of_mem (List.mem_filter.mpr ⟨hp, by rw [live]; rfl⟩)

theorem locate_tidyPath {name : String} (h : endsIdle (pathParts name) = false) :
    fs.locate (tidyPath name) = fs.locate name := by
  have live := liveParts_ne_nil h
  rw [fs.locate_live h, fs.locate_live (endsIdle_tidyPath live), contains_tidyPath live,
    (parts_tidyPath live).1, liveParts_tidyPath live]

theorem endsIdle_of_locate {name : String} {path : List String}
    (h : fs.locate name = .ok (.file path)) : endsIdle (pathParts name) = false := by
  unfold locate at h
  split at h
  · cases h
  · split at h
    · cases h
    · cases h
    · next ps lone parts =>
      obtain ⟨q, qs, rfl⟩ := List.exists_cons_of_ne_nil lone
      rw [parts, endsIdle_cons_cons]
      exact fs.endsIdle_of_walk (Except.ok.inj h)
    · exact fs.endsIdle_of_walk (Except.ok.inj h)

theorem read_eq_ok {name text : String} :
    fs.read name = .ok text ↔
      ∃ path, fs.locate name = .ok (.file path) ∧ readableText ((fs.get? path).getD "") = text := by
  unfold read
  cases fs.locate name with
  | error e => exact ⟨fun h => (nomatch h), fun ⟨_, h, _⟩ => (nomatch h)⟩
  | ok place =>
    cases place with
    | file path =>
      constructor
      · intro h
        exact ⟨path, rfl, Except.ok.inj h⟩
      · rintro ⟨path', h, rfl⟩
        cases h
        rfl
    | slashed isFile => exact ⟨fun h => (nomatch h), fun ⟨_, h, _⟩ => (nomatch h)⟩
    | directory | vacant path | behindFile | nowhere =>
      exact ⟨fun h => (nomatch h), fun ⟨_, h, _⟩ => (nomatch h)⟩

/-- a path that does not end in an idle part and its tidy form are read as the same text -/
theorem read_tidyPath {name : String} (h : endsIdle (pathParts name) = false) (text : String) :
    fs.read (tidyPath name) = .ok text ↔ fs.read name = .ok text := by
  rw [read_eq_ok, read_eq_ok, locate_tidyPath fs h]

theorem read_tidyPath_of_read {name text : String} (h : fs.read name = .ok text) :
    fs.read (tidyPath name) = .ok text := by
  obtain ⟨path, found, -⟩ := fs.read_eq_ok.mp h
  exact (fs.read_tidyPath (fs.endsIdle_of_locate found) text).mpr h

theorem holds_of_read {name text : String} (h : fs.read name = .ok text) : fs.holds name = true := by
  obtain ⟨path, found, -⟩ := fs.read_eq_ok.mp h
  unfold holds
  rw [found]

end Files

end BankSwitch
