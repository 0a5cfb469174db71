import Mathlib.Data.List.Induction
import Mathlib.Order.Lattice

/-!
# The pager of the license

`pager.sh` shows the text of the license in pages as high as the terminal.  Each page
begins with the last line of the page before it, and the first and the last page are
moved so that they are full.
-/

namespace EsdcFactory
namespace Installer
namespace Pager

/-!
## The file
-/

/-- A text of lines, each of which is ended. -/
structure TextFile where
  lines : List (List Char)
  oneLine : forall line, line ∈ lines -> '\n' ∉ line

def TextFile.text (file : TextFile) : List Char :=
  file.lines.flatMap fun line => line ++ ['\n']

/-- `cat ${FILE} | wc -l` -/
def TextFile.total (file : TextFile) : Int :=
  file.text.count '\n'

/-- `sed -n "${START},${END}p"`, which prints one line at least -/
def TextFile.between (file : TextFile) (start last : Int) : List (List Char) :=
  (file.lines.drop (start - 1).toNat).take (max last start - start + 1).toNat

/-!
## The script
-/

/-- `START` and `END` -/
structure Window where
  start : Int
  last : Int
deriving DecidableEq

/-- A page with what is said of it in the footer; a text shown as a whole has no share. -/
structure Page where
  lines : List (List Char)
  start : Int
  last : Int
  total : Int
  percentage : Option Int
deriving DecidableEq

inductive Key where
  | previous
  | next
  | quit
  | other

/-- The patterns of the `case` -/
def keyOf (key : Char) : Key :=
  if key = 'p' ∨ key = 'P' then .previous
  else if key = 'n' ∨ key = 'N' then .next
  else if key = 'q' ∨ key = 'Q' then .quit
  else .other

def printPage (file : TextFile) (w : Window) : Page where
  lines := file.between w.start w.last
  start := w.start
  last := w.last
  total := file.total
  percentage := some ((w.last * 100).tdiv file.total)

def firstWindow (rows : Int) : Window where
  start := 1
  last := rows + 1

def previousWindow (rows : Int) (w : Window) : Window :=
  let start := w.start - rows
  if start ≤ 1 then ⟨1, rows + 1⟩ else ⟨start, w.start⟩

def nextWindow (total rows : Int) (w : Window) : Window :=
  let last := w.last + rows
  if total ≤ last then ⟨total - rows, total⟩ else ⟨w.last, last⟩

/-- The loop over the keys. -/
def readKeys (file : TextFile) (rows : Int) (w : Window) : List Char -> List Page
  | [] => []
  | key :: keys =>
      match keyOf key with
      | .previous =>
          printPage file (previousWindow rows w) ::
            readKeys file rows (previousWindow rows w) keys
      | .next =>
          printPage file (nextWindow file.total rows w) ::
            readKeys file rows (nextWindow file.total rows w) keys
      | .quit => []
      | .other => readKeys file rows w keys

/-- The pages that are shown, on a terminal with some rows and five more. -/
def pager (file : TextFile) (rows : Int) (keys : List Char) : List Page :=
  if file.total ≤ rows then [⟨file.lines, 1, file.total, file.total, none⟩]
  else printPage file (firstWindow rows) :: readKeys file rows (firstWindow rows) keys

/-!
## Windows
-/

/-- What a key makes of the window. -/
def press (total rows : Int) (w : Window) (key : Char) : Window :=
  match keyOf key with
  | .previous => previousWindow rows w
  | .next => nextWindow total rows w
  | .quit => w
  | .other => w

/-- The window after some keys. -/
def windowAfter (file : TextFile) (rows : Int) (keys : List Char) : Window :=
  keys.foldl (press file.total rows) (firstWindow rows)

/-- A full window within the text. -/
structure Window.Fits (total rows : Int) (w : Window) : Prop where
  one_le : 1 ≤ w.start
  le_total : w.last ≤ total
  size : w.last - w.start = rows

def Window.Shows (w : Window) (i : Int) : Prop :=
  w.start ≤ i ∧ i ≤ w.last

/-- Two windows one after the other, with a line in both and none between them. -/
structure Window.Touches (w v : Window) : Prop where
  common : exists i, w.Shows i ∧ v.Shows i
  between : forall i, min w.start v.start ≤ i -> i ≤ max w.last v.last -> w.Shows i ∨ v.Shows i

variable {total rows : Int} {w v : Window}

theorem fits_firstWindow (hless : rows < total) :
    (firstWindow rows).Fits total rows := by
  constructor <;> simp only [firstWindow] <;> omega

theorem fits_previousWindow (hone : 1 ≤ rows) (hless : rows < total) (h : w.Fits total rows) :
    (previousWindow rows w).Fits total rows := by
  rcases h with ⟨hstart, hlast, hsize⟩
  dsimp only [previousWindow]
  split
  · constructor <;> dsimp only <;> omega
  · constructor <;> dsimp only <;> omega

theorem fits_nextWindow (hone : 1 ≤ rows) (hless : rows < total) (h : w.Fits total rows) :
    (nextWindow total rows w).Fits total rows := by
  rcases h with ⟨hstart, hlast, hsize⟩
  dsimp only [nextWindow]
  split
  · constructor <;> dsimp only <;> omega
  · constructor <;> dsimp only <;> omega

theorem fits_press (hone : 1 ≤ rows) (hless : rows < total) (key : Char)
    (h : w.Fits total rows) : (press total rows w key).Fits total rows := by
  rw [press]
  cases keyOf key with
  | previous => exact fits_previousWindow hone hless h
  | next => exact fits_nextWindow hone hless h
  | quit => exact h
  | other => exact h

/-- Windows that reach from one to the other. -/
theorem touches_mk {start last : Int} (hw : w.start ≤ w.last) (hv : start ≤ last)
    (hstart : start ≤ w.last) (hlast : w.start ≤ last) : w.Touches ⟨start, last⟩ := by
  constructor
  · exact ⟨max w.start start, ⟨by omega, by omega⟩, ⟨by dsimp only; omega, by dsimp only; omega⟩⟩
  · intro i hlow hhigh
    by_cases hin : w.start ≤ i ∧ i ≤ w.last
    · exact Or.inl hin
    · dsimp only at hlow hhigh
      exact Or.inr ⟨by dsimp only; omega, by dsimp only; omega⟩

theorem touches_self (h : w.start ≤ w.last) : w.Touches w :=
  touches_mk h h h h

theorem touches_previousWindow (hone : 1 ≤ rows) (h : w.Fits total rows) :
    w.Touches (previousWindow rows w) := by
  rcases h with ⟨hstart, hlast, hsize⟩
  dsimp only [previousWindow]
  split
  · apply touches_mk <;> omega
  · apply touches_mk <;> omega

theorem touches_nextWindow (hone : 1 ≤ rows) (h : w.Fits total rows) :
    w.Touches (nextWindow total rows w) := by
  rcases h with ⟨hstart, hlast, hsize⟩
  dsimp only [nextWindow]
  split
  · apply touches_mk <;> omega
  · apply touches_mk <;> omega

theorem touches_press (hone : 1 ≤ rows) (key : Char) (h : w.Fits total rows) :
    w.Touches (press total rows w key) := by
  have hsize := h.size
  rw [press]
  cases keyOf key with
  | previous => exact touches_previousWindow hone h
  | next => exact touches_nextWindow hone h
  | quit => exact touches_self (by omega)
  | other => exact touches_self (by omega)

/-!
## Getting to the ends
-/

theorem le_last_nextWindow (hone : 1 ≤ rows) :
    min total (w.last + 1) ≤ (nextWindow total rows w).last := by
  dsimp only [nextWindow]
  split
  · dsimp only
    omega
  · dsimp only
    omega

theorem start_previousWindow_le (hone : 1 ≤ rows) :
    (previousWindow rows w).start ≤ max 1 (w.start - 1) := by
  dsimp only [previousWindow]
  split
  · dsimp only
    omega
  · dsimp only
    omega

/-- The window is further down with each key. -/
theorem le_last_forward (hone : 1 ≤ rows) (n : Nat) (w : Window) :
    min total (w.last + n) ≤ ((List.replicate n 'n').foldl (press total rows) w).last := by
  induction n generalizing w with
  | zero =>
      rw [List.replicate_zero, List.foldl_nil]
      omega
  | succ n ih =>
      rw [List.replicate_succ, List.foldl_cons]
      have hstep : min total (w.last + 1) ≤ (press total rows w 'n').last :=
        le_last_nextWindow hone
      have hrest := ih (press total rows w 'n')
      omega

theorem start_backward_le (hone : 1 ≤ rows) (n : Nat) (w : Window) :
    ((List.replicate n 'p').foldl (press total rows) w).start ≤ max 1 (w.start - n) := by
  induction n generalizing w with
  | zero =>
      rw [List.replicate_zero, List.foldl_nil]
      omega
  | succ n ih =>
      rw [List.replicate_succ, List.foldl_cons]
      have hstep : (press total rows w 'p').start ≤ max 1 (w.start - 1) :=
        start_previousWindow_le hone
      have hrest := ih (press total rows w 'p')
      omega

/-!
## Runs
-/

variable {file : TextFile}

theorem windowAfter_append (file : TextFile) (rows : Int) (keys more : List Char) :
    windowAfter file rows (keys ++ more) =
      more.foldl (press file.total rows) (windowAfter file rows keys) :=
  List.foldl_append

theorem fits_windowAfter (hone : 1 ≤ rows) (hless : rows < file.total) (keys : List Char) :
    (windowAfter file rows keys).Fits file.total rows := by
  induction keys using List.reverseRecOn with
  | nil => exact fits_firstWindow hless
  | append_singleton keys key ih =>
      rw [windowAfter_append]
      exact fits_press hone hless key ih

theorem exists_last (hone : 1 ≤ rows) (hless : rows < file.total) (keys : List Char) :
    exists n, (windowAfter file rows (keys ++ List.replicate n 'n')).last = file.total := by
  refine ⟨(file.total - (windowAfter file rows keys).last).toNat, ?_⟩
  have hend := fits_windowAfter hone hless (keys ++ List.replicate
    (file.total - (windowAfter file rows keys).last).toNat 'n')
  have hfar := @le_last_forward file.total rows hone
    (file.total - (windowAfter file rows keys).last).toNat (windowAfter file rows keys)
  rw [← windowAfter_append] at hfar
  have hle := hend.le_total
  omega

theorem exists_start (hone : 1 ≤ rows) (hless : rows < file.total) (keys : List Char) :
    exists n, (windowAfter file rows (keys ++ List.replicate n 'p')).start = 1 := by
  refine ⟨((windowAfter file rows keys).start - 1).toNat, ?_⟩
  have hend := fits_windowAfter hone hless (keys ++ List.replicate
    ((windowAfter file rows keys).start - 1).toNat 'p')
  have hfar := @start_backward_le file.total rows hone
    ((windowAfter file rows keys).start - 1).toNat (windowAfter file rows keys)
  rw [← windowAfter_append] at hfar
  have hge := hend.one_le
  omega

/-- Whatever was typed, the window is a full one, and each key leads on without a gap. -/
theorem pager_never_skips (file : TextFile) (rows : Int) (hone : 1 ≤ rows)
    (hless : rows < file.total) (keys : List Char) :
    (windowAfter file rows keys).Fits file.total rows ∧
      (forall key, (windowAfter file rows keys).Touches (windowAfter file rows (keys ++ [key]))) ∧
      (exists n, (windowAfter file rows (keys ++ List.replicate n 'n')).last = file.total) ∧
      exists n, (windowAfter file rows (keys ++ List.replicate n 'p')).start = 1 := by
  have hfits := fits_windowAfter hone hless keys
  refine ⟨hfits, ?_, exists_last hone hless keys, exists_start hone hless keys⟩
  intro key
  rw [windowAfter_append]
  exact touches_press hone key hfits

/-- Three lines, in pages of two. -/
theorem pager_never_skips_short :
    (windowAfter ⟨[['a'], ['b'], ['c']], by decide⟩ 1 ['n']).Fits 3 1 := by
  have h := pager_never_skips ⟨[['a'], ['b'], ['c']], by decide⟩ 1 (by decide) (by decide) ['n']
  exact h.left

/-!
## Pages
-/

theorem total_eq (file : TextFile) : file.total = file.lines.length := by
  have hcount : forall lines : List (List Char), (forall line, line ∈ lines -> '\n' ∉ line) ->
      (lines.flatMap fun line => line ++ ['\n']).count '\n' = lines.length := by
    intro lines
    induction lines with
    | nil => exact fun _ => rfl
    | cons line lines ih =>
        intro h
        rw [List.flatMap_cons, List.count_append, List.count_append,
          List.count_eq_zero.mpr (h line List.mem_cons_self),
          ih fun other hother => h other (List.mem_cons_of_mem _ hother), List.length_cons]
        simp
        omega
  exact congrArg Nat.cast (hcount file.lines file.oneLine)

/-- The keys that turn a page, up to the one that ends the pager. -/
def turns : List Char -> List Char
  | [] => []
  | key :: keys =>
      match keyOf key with
      | .previous => key :: turns keys
      | .next => key :: turns keys
      | .quit => []
      | .other => turns keys

/-- The windows after each of some keys. -/
def windows (total rows : Int) (w : Window) : List Char -> List Window
  | [] => []
  | key :: keys => press total rows w key :: windows total rows (press total rows w key) keys

/-- What is shown are the windows of the run. -/
theorem readKeys_eq (file : TextFile) (rows : Int) (w : Window) (keys : List Char) :
    readKeys file rows w keys = (windows file.total rows w (turns keys)).map (printPage file) := by
  induction keys generalizing w with
  | nil => rfl
  | cons key keys ih =>
      rw [readKeys, turns]
      cases hkey : keyOf key with
      | previous =>
          have hpress : press file.total rows w key = previousWindow rows w := by
            rw [press, hkey]
          simp only [windows, List.map_cons, hpress, ih]
      | next =>
          have hpress : press file.total rows w key = nextWindow file.total rows w := by
            rw [press, hkey]
          simp only [windows, List.map_cons, hpress, ih]
      | quit => rfl
      | other => exact ih w

theorem isChain_windows (hone : 1 ≤ rows) (hless : rows < total) (keys : List Char)
    (h : w.Fits total rows) : (w :: windows total rows w keys).IsChain Window.Touches := by
  induction keys generalizing w with
  | nil => exact .singleton _
  | cons key keys ih =>
      rw [windows, List.isChain_cons_cons]
      exact ⟨touches_press hone key h, ih (fits_press hone hless key h)⟩

/-- A line in the window is on the page. -/
theorem mem_printPage {file : TextFile} {w : Window} {n : Nat} (hn : n < file.lines.length)
    (hstart : 1 ≤ w.start) (h : w.Shows (n + 1)) : file.lines[n] ∈ (printPage file w).lines := by
  rcases h with ⟨hlow, hhigh⟩
  have hindex : (w.start - 1).toNat + (n - (w.start - 1).toNat) = n := by omega
  rw [printPage, TextFile.between, List.mem_take_iff_getElem]
  refine ⟨n - (w.start - 1).toNat, ?_, ?_⟩
  · rw [List.length_drop]
    omega
  · rw [List.getElem_drop]
    congr 1

theorem fits_windows (hone : 1 ≤ rows) (hless : rows < total) (keys : List Char)
    (h : w.Fits total rows) :
    forall u, u ∈ w :: windows total rows w keys -> u.Fits total rows := by
  induction keys generalizing w with
  | nil =>
      intro u hu
      rw [List.mem_singleton.mp hu]
      exact h
  | cons key keys ih =>
      intro u hu
      rcases List.mem_cons.mp hu with rfl | hu
      · exact h
      · exact ih (fits_press hone hless key h) u hu

theorem foldl_mem_windows (total rows : Int) (w : Window) (keys : List Char) :
    keys.foldl (press total rows) w ∈ w :: windows total rows w keys := by
  induction keys generalizing w with
  | nil => exact List.mem_cons_self
  | cons key keys ih => exact List.mem_cons_of_mem _ (ih (press total rows w key))

/-- All that lies between two windows of a chain is in one of its windows. -/
theorem exists_shows {ws : List Window} (h : (w :: ws).IsChain Window.Touches)
    (hv : v ∈ w :: ws) {i : Int} (hlow : w.start ≤ i) (hhigh : i ≤ v.last) :
    exists u, u ∈ w :: ws ∧ u.Shows i := by
  by_cases hin : i ≤ w.last
  · exact ⟨w, List.mem_cons_self, hlow, hin⟩
  · induction ws generalizing w with
    | nil =>
        rw [List.mem_singleton.mp hv] at hhigh
        exact absurd hhigh hin
    | cons next ws ih =>
        rw [List.isChain_cons_cons] at h
        rcases h.left.common with ⟨common, ⟨_, hcommon⟩, hnext, _⟩
        have hmem : v ∈ next :: ws := by
          rcases List.mem_cons.mp hv with rfl | hmem
          · exact absurd hhigh hin
          · exact hmem
        have hstart : next.start ≤ i := by omega
        by_cases hnextin : i ≤ next.last
        · exact ⟨next, List.mem_cons_of_mem _ List.mem_cons_self, hstart, hnextin⟩
        · rcases ih h.right hmem hstart hnextin with ⟨u, hu, hshows⟩
          exact ⟨u, List.mem_cons_of_mem _ hu, hshows⟩

theorem turns_forward (n : Nat) : turns (List.replicate n 'n') = List.replicate n 'n' := by
  induction n with
  | zero => rfl
  | succ n ih =>
      rw [List.replicate_succ, turns, ih]
      rfl

/-- Who pages on sees each line of the text. -/
theorem every_line_is_shown (file : TextFile) (rows : Int) (hone : 1 ≤ rows) :
    exists n, forall line, line ∈ file.lines ->
      exists page, page ∈ pager file rows (List.replicate n 'n') ∧ line ∈ page.lines := by
  by_cases hshort : file.total ≤ rows
  · refine ⟨0, fun line hline => ?_⟩
    rw [pager, if_pos hshort]
    exact ⟨_, List.mem_cons_self, hline⟩
  · have hless : rows < file.total := by omega
    have hfirst := fits_firstWindow hless
    rcases exists_last hone hless [] with ⟨n, hend⟩
    rw [List.nil_append, windowAfter] at hend
    refine ⟨n, fun line hline => ?_⟩
    rcases List.getElem_of_mem hline with ⟨m, hm, rfl⟩
    have hlast := foldl_mem_windows file.total rows (firstWindow rows) (List.replicate n 'n')
    have htotal := total_eq file
    rcases exists_shows (isChain_windows hone hless _ hfirst) hlast (i := m + 1)
        (by simp only [firstWindow]; omega) (by rw [hend]; omega) with ⟨u, hu, hshows⟩
    refine ⟨printPage file u, ?_, ?_⟩
    · rw [pager, if_neg hshort, readKeys_eq, turns_forward, ← List.map_cons]
      exact List.mem_map_of_mem hu
    · exact mem_printPage hm (fits_windows hone hless _ hfirst u hu).one_le hshows

end Pager
end Installer
end EsdcFactory
