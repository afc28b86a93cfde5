import Mathlib.Data.List.Sort
import Mathlib.Data.String.Basic
import DocStore.Proofs.Engine.History
import DocStore.Proofs.Engine.Isolated
import DocStore.Proofs.Order.Compare

/-!
This module contains the catalogue of the engine: which collections are listed, in which order, and
which of them are not listed any more when the engine has released its collections or another one
has taken over the directory. A name that begins as those of temporary files do is listed only as
long as the collection is in use.
-/

namespace DocStore

open Comparand

instance : Std.TransCmp textOrder where
  eq_swap {a b} := @Std.OrientedCmp.eq_swap _ canonicalOrder _ a.toList b.toList
  isLE_trans {a b c} := @Std.TransCmp.isLE_trans _ canonicalOrder _ a.toList b.toList c.toList

theorem textOrder_self (a : String) : textOrder a a = .eq := Std.ReflCmp.compare_self

theorem textOrder_swap (a b : String) : textOrder a b = (textOrder b a).swap :=
  Std.OrientedCmp.eq_swap

theorem textOrder_eq_eq {a b : String} (h : textOrder a b = .eq) : a = b := by
  rw [textOrder_eq] at h
  unfold listOrder at h
  rw [lexicographic_eq_compareLex] at h
  have hcodes : a.toList.map Char.toNat = b.toList.map Char.toNat := Std.LawfulEqCmp.eq_of_compare h
  exact String.toList_inj.mp (List.map_injective_iff.mpr (fun _ _ => Char.toNat_inj.mp) hcodes)

def Precedes (a b : String) : Prop := textOrder a b = .lt

instance : Std.Irrefl Precedes where
  irrefl a h := by
    unfold Precedes at h
    rw [textOrder_self] at h
    cases h

instance : Std.Antisymm Precedes where
  antisymm a b hab hba := by
    unfold Precedes at hab hba
    rw [textOrder_swap, hba] at hab
    cases hab

theorem pairwise_eraseDups {names : List String} (h : names.Pairwise fun a b => textOrder a b ≠ .gt)
    : names.eraseDups.Pairwise Precedes := by
  induction hn : names.length using Nat.strong_induction_on generalizing names with
  | _ n ih =>
    cases names with
    | nil => exact .nil
    | cons a names =>
      rw [List.eraseDups_cons]
      rw [List.pairwise_cons] at h ⊢
      have hlt : (names.filter fun b => !b == a).length < n :=
        lt_of_le_of_lt (List.length_filter_le ..) (by rw [← hn]; exact Nat.lt_succ_self _)
      refine ⟨?_, ih _ hlt (h.2.filter _) rfl⟩
      intro b hb
      rw [List.mem_eraseDups, List.mem_filter] at hb
      have hle := h.1 b hb.1
      unfold Precedes
      cases horder : textOrder a b with
      | lt => rfl
      | eq =>
        cases textOrder_eq_eq horder
        simp at hb
      | gt => exact absurd horder hle

namespace Collection

def isHidden (name : String) : Bool := temporaryPrefix.toList.isPrefixOf name.toList

theorem isPrefixOf_fileName (name : String)
    : temporaryPrefix.toList.isPrefixOf (fileName name).toList = isHidden name := by
  unfold isHidden fileName
  rw [Bool.eq_iff_iff, List.isPrefixOf_iff_prefix, List.isPrefixOf_iff_prefix, String.toList_append]
  constructor
  . rintro ⟨rest, hrest⟩
    rcases List.append_eq_append_iff.mp hrest with ⟨front, hname, _⟩ | ⟨front, hbegins, hsuffix⟩
    . exact ⟨front, hname.symm⟩
    . -- the last letter of the beginning is none of the suffix
      have hlast : front.getLast?.or name.toList.getLast? = some '_' := by
        rw [← List.getLast?_append, ← hbegins]
        rfl
      cases hfront : front.getLast? with
      | none =>
        rw [List.getLast?_eq_none_iff.mp hfront, List.append_nil] at hbegins
        exact ⟨[], by rw [hbegins, List.append_nil]⟩
      | some c =>
        rw [hfront] at hlast
        cases hlast
        have hmem : '_' ∈ fileSuffix.toList := by
          rw [hsuffix]
          exact List.mem_append_left _ (List.mem_of_getLast? hfront)
        exact absurd hmem (by decide)
  . exact List.prefix_append_of_prefix

theorem ofFileName?_fileName (name : String)
    : ofFileName? (fileName name) = if isHidden name then none else some name := by
  unfold ofFileName?
  dsimp only
  rw [isPrefixOf_fileName]
  have hsuffix : fileSuffix.toList.isSuffixOf (fileName name).toList = true := by
    rw [List.isSuffixOf_iff_suffix]
    exact ⟨name.toList, String.toList_append.symm⟩
  have hfront : (fileName name).toList.take
    ((fileName name).toList.length - fileSuffix.toList.length)
      = name.toList := by
    unfold fileName
    rw [String.toList_append, List.length_append, Nat.add_sub_cancel, List.take_left]
  rw [hsuffix, hfront, String.ofList_toList]
  cases isHidden name <;> rfl

theorem ofFileName?_some {file name : String} (h : ofFileName? file = some name)
    : file = fileName name := by
  unfold ofFileName? at h
  dsimp only at h
  split at h
  next hsuffix =>
    rw [Bool.and_eq_true, List.isSuffixOf_iff_suffix] at hsuffix
    obtain ⟨front, hfront⟩ := hsuffix.1
    rw [← hfront, List.length_append, Nat.add_sub_cancel, List.take_left] at h
    cases h
    unfold fileName
    apply String.toList_inj.mp
    rw [String.toList_append, String.toList_ofList, hfront]
  . cases h

theorem ofFileName?_eq_some {file name : String}
    : ofFileName? file = some name ↔ file = fileName name ∧ isHidden name = false := by
  constructor
  . intro h
    have hfile := ofFileName?_some h
    rw [hfile, ofFileName?_fileName] at h
    refine ⟨hfile, ?_⟩
    cases hhidden : isHidden name with
    | false => rfl
    | true =>
      rw [hhidden] at h
      cases h
  . rintro ⟨rfl, hhidden⟩
    rw [ofFileName?_fileName, hhidden]
    rfl

end Collection

namespace Engine

theorem names_precedes (e : Engine) : e.names.Pairwise Precedes := by
  apply pairwise_eraseDups
  have hsorted := @List.pairwise_mergeSort _ (fun a b => decide (textOrder a b ≠ .gt)) ?_ ?_
    (e.cached.map (·.1) ++ e.disk.entries.filterMap fun f => Collection.ofFileName? f.1.text)
  . simpa using hsorted
  . intro a b c hab hbc
    rw [decide_eq_true_eq, Ne, ← Ordering.isLE_iff_ne_gt] at hab hbc ⊢
    exact Std.TransCmp.isLE_trans hab hbc
  . intro a b
    rw [textOrder_swap b]
    cases textOrder a b <;> rfl

theorem isSome_lookup {cached : List (String × Nat)} {n : String}
    : (cached.lookup n).isSome ↔ n ∈ cached.map (·.1) := by
  rw [List.lookup_isSome_iff, List.mem_map]
  constructor
  . rintro ⟨c, hc, hn⟩
    exact ⟨c, hc, (eq_of_beq hn).symm⟩
  . rintro ⟨c, hc, rfl⟩
    exact ⟨c, hc, beq_self_eq_true _⟩

theorem isSome_file? {e : Engine} {n : String}
    : (e.file? n).isSome ↔ ∃ f ∈ e.disk.entries, f.1 = .given (Collection.fileName n) := by
  unfold file? Disk.get?
  rw [List.lookup_isSome_iff]
  constructor
  . rintro ⟨f, hf, hn⟩
    exact ⟨f, hf, (eq_of_beq hn).symm⟩
  . rintro ⟨f, hf, hn⟩
    exact ⟨f, hf, by rw [hn]; exact beq_self_eq_true _⟩

theorem mem_names {e : Engine} {n : String}
    : n ∈ e.names ↔ (e.cached.lookup n).isSome ∨ (e.file? n).isSome ∧
      Collection.isHidden n = false := by
  unfold names
  dsimp only
  rw [List.mem_eraseDups, List.mem_mergeSort, List.mem_append, isSome_lookup, isSome_file?,
    List.mem_filterMap]
  refine or_congr_right ?_
  constructor
  . rintro ⟨⟨file, entry⟩, hf, hn⟩
    cases file with
    | given file =>
      obtain ⟨hfile, hhidden⟩ := Collection.ofFileName?_eq_some.mp hn
      exact ⟨⟨_, hf, congrArg _ hfile⟩, hhidden⟩
    | temporary base number =>
      dsimp only at hn
      rw [Collection.temporaryName_text, Collection.ofFileName?_temporaryName] at hn
      cases hn
  . rintro ⟨⟨⟨_, entry⟩, hf, rfl⟩, hhidden⟩
    exact ⟨_, hf, Collection.ofFileName?_eq_some.mpr ⟨rfl, hhidden⟩⟩

theorem names_eq {e e' : Engine} (h : ∀ n, n ∈ e.names ↔ n ∈ e'.names) : e.names = e'.names :=
  e.names_precedes.eq_of_mem_iff e'.names_precedes h

theorem run_list (now : Moment) (e : Engine) : run now .list e = (.ok (.names e.names), e) :=
  run_answered rfl

theorem run_close_cached (now : Moment) (e : Engine) : (run now .close e).2.cached = [] := by
  have hb := begin_close e
  split at hb
  . rw [run_waits hb]
    rfl
  . rw [run_answered hb]
    rfl

structure IsReleased (e e' : Engine) : Prop where
  cached : e'.cached = []
  disk : e'.disk = e.disk

theorem isReleased_close (now : Moment) (e : Engine) : IsReleased e (run now .close e).2 :=
  ⟨run_close_cached now e, run_close_disk rfl⟩

theorem isReleased_reopen (e : Engine) : IsReleased e e.reopen := ⟨rfl, rfl⟩

theorem isSome_file_of_opened {e : Engine} (hfiles : ∀ c ∈ e.cached, (e.file? c.1).isSome)
    {n : String}
    (hopen : (e.cached.lookup n).isSome) : (e.file? n).isSome := by
  obtain ⟨c, hc, rfl⟩ := List.mem_map.mp (isSome_lookup.mp hopen)
  exact hfiles c hc

theorem IsReleased.names {e e' : Engine} (h : IsReleased e e')
    (hfiles : ∀ c ∈ e.cached, (e.file? c.1).isSome)
    : e'.names = e.names.filter fun n => !Collection.isHidden n := by
  apply e'.names_precedes.eq_of_mem_iff (e.names_precedes.filter _)
  intro n
  rw [List.mem_filter, mem_names, mem_names, h.cached]
  unfold file?
  rw [h.disk]
  constructor
  . rintro (hopen | ⟨hfile, hhidden⟩)
    . cases hopen
    . exact ⟨.inr ⟨hfile, hhidden⟩, by rw [hhidden]; rfl⟩
  . rintro ⟨hopen | hfile, hhidden⟩
    . exact .inr ⟨isSome_file_of_opened hfiles hopen, by simpa using hhidden⟩
    . exact .inr hfile

/--
No collection with a file is missing from the list, now or after the collections were released.
-/
structure KeepsCatalogue (e : Engine) (now : Moment) : Prop where
  files : ∀ n, n ∈ e.names ↔ (e.file? n).isSome
  closed : (run now .list (run now .close e).2).1 = (run now .list e).1
  reopened : (run now .list e.reopen).1 = (run now .list e).1

theorem keepsCatalogue_iff {e : Engine} (hfiles : ∀ c ∈ e.cached, (e.file? c.1).isSome)
    (now : Moment)
    : KeepsCatalogue e now ↔ ∀ n, (e.file? n).isSome → Collection.isHidden n = false := by
  -- closing and opening again leave the names that are not hidden, so that none may be
  have hclosed := (isReleased_close now e).names hfiles
  have hreopened := (isReleased_reopen e).names hfiles
  constructor
  . intro h n hfile
    have hmem := (h.files n).mpr hfile
    have hsame := h.closed
    rw [run_list, run_list, hclosed] at hsame
    have hnames : e.names.filter (fun n => !Collection.isHidden n) = e.names := by
      injection hsame with hanswer
      injection hanswer
    rw [← hnames, List.mem_filter] at hmem
    simpa using hmem.2
  . intro h
    have hmem : ∀ n, n ∈ e.names ↔ (e.file? n).isSome := by
      intro n
      rw [mem_names]
      constructor
      . rintro (hopen | hfile)
        . exact isSome_file_of_opened hfiles hopen
        . exact hfile.1
      . exact fun hfile => .inr ⟨hfile, h n hfile⟩
    have hall : e.names.filter (fun n => !Collection.isHidden n) = e.names := by
      rw [List.filter_eq_self]
      intro n hn
      rw [h n ((hmem n).mp hn)]
      rfl
    refine ⟨hmem, ?_, ?_⟩
    . rw [run_list, run_list, hclosed, hall]
    . rw [run_list, run_list, hreopened, hall]

theorem History.IsKept.isSome_written {h : History} (hk : h.IsKept) (n : String)
    : (h.written n).isSome ↔ (h.engine.file? n).isSome := by
  have hfile := hk.files n
  cases hwritten : h.written n with
  | none =>
    rw [hwritten] at hfile
    rw [show h.engine.file? n = none from hfile]
    rfl
  | some docs =>
    rw [hwritten] at hfile
    obtain ⟨s, _, hs⟩ := hfile
    rw [hs]
    exact ⟨fun _ => rfl, fun _ => rfl⟩

/--
After any run from an empty directory that has written every collection in use, the list is in
order, each name once, and has the collections with a file, of which the hidden ones only as long as
they are in use. When the engine is closed or another one takes over, the hidden ones are gone from
the list and the others are still there. So the catalogue is kept exactly if no hidden collection
has a file.
-/
theorem catalogue_lists (directory : String) (ids : IdSupply) (events : List Event) (now : Moment)
    {h : History} (hrun : h = (History.start directory ids).run events)
    (hwritten : ∀ c ∈ h.engine.cached, (h.written c.1).isSome)
    : let e := h.engine
      run now .list e = (.ok (.names e.names), e)
        ∧ e.names.Pairwise Precedes
        ∧ (∀ n, n ∈ e.names ↔ (e.file? n).isSome ∧
          (Collection.isHidden n → (e.cached.lookup n).isSome))
        ∧ (∀ e', e' = (run now .close e).2 ∨ e' = e.reopen →
            (run now .list e').1 = .ok (.names (e.names.filter fun n => !Collection.isHidden n)))
        ∧ (KeepsCatalogue e now ↔ ∀ n, (e.file? n).isSome → Collection.isHidden n = false) := by
  have hk : h.IsKept := by
    rw [hrun]
    exact (History.start_isKept directory ids).run events
  have hfiles : ∀ c ∈ h.engine.cached, (h.engine.file? c.1).isSome :=
    fun c hc => (hk.isSome_written c.1).mp (hwritten c hc)
  refine ⟨run_list now h.engine, h.engine.names_precedes, ?_, ?_, keepsCatalogue_iff hfiles now⟩
  . intro n
    rw [mem_names]
    constructor
    . rintro (hopen | ⟨hfile, hhidden⟩)
      . exact ⟨isSome_file_of_opened hfiles hopen, fun _ => hopen⟩
      . refine ⟨hfile, fun h => ?_⟩
        rw [hhidden] at h
        cases h
    . rintro ⟨hfile, hopen⟩
      cases hhidden : Collection.isHidden n with
      | false => exact .inr ⟨hfile, rfl⟩
      | true => exact .inl (hopen hhidden)
  . intro e' he'
    have hreleased : IsReleased h.engine e' := by
      rcases he' with rfl | rfl
      . exact isReleased_close now h.engine
      . exact isReleased_reopen h.engine
    rw [run_list, hreleased.names hfiles]

def hidingEvents : List Event :=
  [.request .epoch (.call (.createOne (.text ".tmp_a") (.object [(.text "_id", .text "1")]))),
    .request .epoch (.call (.createOne (.text "b") (.object [(.text "_id", .text "1")])))]

theorem catalogue_lists_hidden
    : let h := (History.start "d" {}).run hidingEvents
      (∀ c ∈ h.engine.cached, (h.written c.1).isSome)
        ∧ (run Clock.epoch.now .list h.engine.reopen).1
          = .ok (.names (h.engine.names.filter fun n => !Collection.isHidden n)) := by
  have hwritten : ∀ c ∈ ((History.start "d" {}).run hidingEvents).engine.cached,
      (((History.start "d" {}).run hidingEvents).written c.1).isSome := by
    decide +kernel
  refine ⟨hwritten, ?_⟩
  exact (catalogue_lists "d" {} hidingEvents Clock.epoch.now rfl hwritten).2.2.2.1 _ (.inr rfl)

theorem catalogue_not_kept
    : let h := (History.start "d" {}).run hidingEvents
      checkName (.text ".tmp_a") = .ok ".tmp_a"
        ∧ (∀ c ∈ h.engine.cached, (h.written c.1).isSome)
        ∧ (h.engine.file? ".tmp_a").isSome
        ∧ (∃ ns, (run Clock.epoch.now .list h.engine).1 = .ok (.names ns) ∧ ".tmp_a" ∈ ns)
        ∧ (∃ ns, (run Clock.epoch.now .list (run Clock.epoch.now .close h.engine).2).1 =
          .ok (.names ns)
            ∧ ".tmp_a" ∉ ns ∧ "b" ∈ ns)
        ∧ ¬ KeepsCatalogue h.engine Clock.epoch.now := by
  intro h
  have hopen : (h.engine.cached.lookup ".tmp_a").isSome := by decide +kernel
  have hwritten : ∀ c ∈ h.engine.cached, (h.written c.1).isSome := by decide +kernel
  have hfiles : ∀ c ∈ h.engine.cached, (h.engine.file? c.1).isSome := by decide +kernel
  have hclosed := (isReleased_close Clock.epoch.now h.engine).names hfiles
  refine ⟨rfl, hwritten, by decide +kernel,
    ⟨h.engine.names, by rw [run_list], mem_names.mpr (.inl hopen)⟩,
    ⟨(run Clock.epoch.now .close h.engine).2.names, by rw [run_list], ?_, ?_⟩, ?_⟩
  . rw [hclosed, List.mem_filter]
    exact fun hmem => absurd hmem.2 (by decide +kernel)
  . rw [hclosed, List.mem_filter]
    exact ⟨mem_names.mpr (.inl (by decide +kernel)), by decide +kernel⟩
  . intro hkeeps
    have hhidden :=
      (keepsCatalogue_iff hfiles Clock.epoch.now).mp hkeeps ".tmp_a" (by decide +kernel)
    exact absurd hhidden (by decide +kernel)

end Engine

end DocStore
