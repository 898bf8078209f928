import AdminConsole.Proofs.Permission.Commit

/-!
# Proofs/Permission/Newest — the newest load wins

Loads may overlap, and their answers may arrive in any order, more than once or never.  A
`LoadLog` keeps what was seen of them, `Overlapping` are the runs that it is kept along.  The cells
are always those of the rows last taken under the latest tag, or there are none (`Sequenced`), so
an answer that comes late shows nothing under another subject (`newest_load_wins`).
-/

namespace AdminConsole.Matrix

/-- What was seen of the loads of a matrix, the latest first. -/
structure LoadLog where
  /-- The loads that were begun, with tag and subject. -/
  begun : List (Int × Value) := []
  /-- The rows that were taken, with the tag of their answer. -/
  taken : List (Int × Value) := []

/-- The log after an answer with rows. -/
def LoadLog.answered (log : LoadLog) (tag : Int) (rows : Value) :
    Except Fault (Matrix × Bool) → LoadLog
  | .ok (_, true) => { log with taken := (tag, rows) :: log.taken }
  | _ => log

/-- **Runs with overlapping loads.**  An answer carries a tag that an earlier load returned; a
commit is run to its end, with edits of the host meanwhile. -/
inductive Overlapping : Matrix → LoadLog → Prop
  | new {n : Value} {m : Matrix} (created : create n = .ok m) : Overlapping m {}
  | beginLoad {m : Matrix} {log : LoadLog} (run : Overlapping m log) (subject : Value) :
      Overlapping (m.beginLoad subject).1
        { log with begun := ((m.beginLoad subject).2, subject) :: log.begun }
  | applyBaseline {m : Matrix} {log : LoadLog} (run : Overlapping m log) {tag : Int}
      (issued : tag ∈ Entries.keys log.begun) (rows : Value) :
      Overlapping (m.after (m.applyBaseline tag rows))
        (log.answered tag rows (m.applyBaseline tag rows))
  | failLoad {m : Matrix} {log : LoadLog} (run : Overlapping m log) {tag : Int}
      (issued : tag ∈ Entries.keys log.begun) (error : Fault) :
      Overlapping (m.failLoad tag error).1 log
  | edit {m m' : Matrix} {log : LoadLog} (run : Overlapping m log) (edit : Edit m m') :
      Overlapping m' log
  | commitPending {m : Matrix} {log : LoadLog} {σ : Type} (run : Overlapping m log)
      (writer : Writer σ) (st : σ)
      (editing : ∀ subject entity flags m st, Edits m (writer subject entity flags m st).2.1) :
      Overlapping (m.commitPending writer st).2.1 log

/-- The generation is the latest tag, and the cells are those of the rows last taken under it. -/
structure Sequenced (log : LoadLog) (m : Matrix) : Prop where
  consistent : Consistent m
  cells : Entries.keys m.current = Entries.keys m.baseline
  latest : log.begun = [] ∨ log.begun.head? = some (m.sequencer.generation, m.subject)
  bound : ∀ tag ∈ Entries.keys log.begun, tag ≤ m.sequencer.generation
  increasing : (Entries.keys log.begun).Pairwise (· > ·)
  issued : ∀ tag ∈ Entries.keys log.taken, tag ∈ Entries.keys log.begun
  loaded : Entries.keys m.baseline = [] ∨ ∃ rows rows',
    Entries.get? m.sequencer.generation log.taken = some rows ∧ readRows rows = .ok rows' ∧
      Entries.keys m.baseline = Entries.keys rows'

/-! ## Single steps -/

theorem Sequenced.beginLoad {log : LoadLog} {m : Matrix} (h : Sequenced log m) (subject : Value) :
    Sequenced { log with begun := ((m.beginLoad subject).2, subject) :: log.begun }
      (m.beginLoad subject).1 where
  consistent := consistent_beginLoad m subject
  cells := rfl
  latest := .inr rfl
  bound tag htag := by
    change tag ≤ m.sequencer.generation + 1
    rcases List.mem_cons.mp htag with rfl | htag
    · exact Int.le_refl _
    · have := h.bound tag htag
      omega
  increasing := by
    refine List.pairwise_cons.mpr ⟨fun tag htag => ?_, h.increasing⟩
    change m.sequencer.generation + 1 > tag
    have := h.bound tag htag
    omega
  issued tag htag := List.mem_cons_of_mem _ (h.issued tag htag)
  loaded := .inl rfl

/-- **An answer under the latest tag puts its rows into the cells; any other is ignored.** -/
theorem applyBaseline_cases (m : Matrix) (tag : Int) (rows : Value) :
    (tag ≠ m.sequencer.generation ∧ m.applyBaseline tag rows = .ok (m, false)) ∨
    tag = m.sequencer.generation ∧
      ((∃ f, m.applyBaseline tag rows = .error f) ∨
        ∃ rows', readRows rows = .ok rows' ∧
          m.applyBaseline tag rows = .ok (m.install rows', true)) := by
  rw [applyBaseline, Sequencer.isCurrent]
  by_cases ht : tag = m.sequencer.generation
  · rw [if_pos (beq_iff_eq.mpr ht)]
    refine .inr ⟨ht, ?_⟩
    cases readRows rows with
    | error f => exact .inl ⟨f, rfl⟩
    | ok rows' => exact .inr ⟨rows', rfl, rfl⟩
  · rw [if_neg (mt beq_iff_eq.mp ht)]
    exact .inl ⟨ht, rfl⟩

theorem failLoad_of_ne {m : Matrix} {tag : Int} (h : tag ≠ m.sequencer.generation)
    (error : Fault) : m.failLoad tag error = (m, false) := by
  rw [failLoad, Sequencer.isCurrent, if_neg (mt beq_iff_eq.mp h)]

theorem Sequenced.applyBaseline {log : LoadLog} {m : Matrix} (h : Sequenced log m) {tag : Int}
    (issued : tag ∈ Entries.keys log.begun) (rows : Value) :
    Sequenced (log.answered tag rows (m.applyBaseline tag rows))
      (m.after (m.applyBaseline tag rows)) := by
  rcases m.applyBaseline_cases tag rows with ⟨-, ha⟩ | ⟨rfl, ⟨f, ha⟩ | ⟨rows', hr, ha⟩⟩
  · rw [ha]
    exact h
  · rw [ha]
    exact h
  · rw [ha]
    refine ⟨consistent_install m rows', rfl, h.latest, h.bound, h.increasing, fun t ht => ?_, ?_⟩
    · rcases List.mem_cons.mp ht with rfl | ht
      · exact issued
      · exact h.issued t ht
    · refine .inr ⟨rows, rows', ?_, hr, rfl⟩
      exact if_pos rfl

/-- What keeps the subject, the sequencer and the entities keeps the sequence. -/
theorem Sequenced.of_keys {log : LoadLog} {m m' : Matrix} (h : Sequenced log m)
    (consistent : Consistent m') (cells : Entries.keys m'.current = Entries.keys m'.baseline)
    (subject : m'.subject = m.subject) (sequencer : m'.sequencer = m.sequencer)
    (entities : Entries.keys m'.baseline = Entries.keys m.baseline) : Sequenced log m' := by
  refine ⟨consistent, cells, ?_, ?_, h.increasing, h.issued, ?_⟩
  · rw [subject, sequencer]
    exact h.latest
  · rw [sequencer]
    exact h.bound
  · rw [sequencer, entities]
    exact h.loaded

theorem Sequenced.failLoad {log : LoadLog} {m : Matrix} (h : Sequenced log m) (tag : Int)
    (error : Fault) : Sequenced log (m.failLoad tag error).1 := by
  refine failLoad_keeps (P := Sequenced log) (fun m error h => ?_) tag error h
  exact h.of_keys (h.consistent.failed error) h.cells rfl rfl rfl

theorem Sequenced.edit {log : LoadLog} {m m' : Matrix} (h : Sequenced log m) (edit : Edit m m') :
    Sequenced log m' := by
  have edits : Edits m m' := .single edit
  obtain ⟨hframe, hbase⟩ := edits.frame
  obtain ⟨hsubject, hseq, -, -⟩ := eq_of_withoutCells hframe
  exact h.of_keys (h.consistent.edit edit) (edits.keys_current h.cells) hsubject hseq
    (congrArg Entries.keys hbase)

theorem Sequenced.commitPending {log : LoadLog} {m : Matrix} (h : Sequenced log m) {σ : Type}
    {writer : Writer σ}
    (editing : ∀ subject entity flags m st, Edits m (writer subject entity flags m st).2.1)
    (st : σ) : Sequenced log (m.commitPending writer st).2.1 := by
  obtain ⟨hsubject, hseq, -, -⟩ := eq_of_withoutCells (commitPending_withoutCells editing m st)
  obtain ⟨hkb, hkc⟩ := keys_commitPending editing h.consistent h.cells st
  refine h.of_keys ?_ (hkc.trans hkb.symm) hsubject hseq hkb
  exact commitPending_keeps (fun _ _ _ _ _ hc => hc.edits (editing _ _ _ _ _))
    (fun _ entity flags hc => hc.written entity flags) st h.consistent

/-! ## Runs -/

theorem Overlapping.sequenced {m : Matrix} {log : LoadLog} (run : Overlapping m log) :
    Sequenced log m := by
  induction run with
  | new created =>
    rw [eq_of_create created]
    exact ⟨consistent_of_clean rfl rfl, rfl, .inl rfl, by simp, .nil, by simp, .inl rfl⟩
  | beginLoad _ subject ih => exact ih.beginLoad subject
  | applyBaseline _ issued rows ih => exact ih.applyBaseline issued rows
  | failLoad _ _ error ih => exact ih.failLoad _ error
  | edit _ edit ih => exact ih.edit edit
  | commitPending _ writer st editing ih => exact ih.commitPending editing st

/-- **Without a cell every edit is refused.** -/
theorem refuses_of_no_cells {m : Matrix} (h : m.current = []) (entity permission : String)
    (enabled : Bool) : m.Refuses entity (m.toggle entity permission) ∧
      m.Refuses entity (m.setPermission entity permission enabled) := by
  have toggled : m.Refuses entity (m.toggle entity permission) := by
    rcases m.toggle_cases entity permission with hr | ⟨old, hc, -, -⟩
    · exact hr
    · rw [h] at hc
      nomatch hc
  refine ⟨toggled, ?_⟩
  rcases m.setPermission_cases entity permission enabled with hr | ⟨old, hc, -, -⟩ | ht
  · exact hr
  · rw [h] at hc
    nomatch hc
  · rw [ht]
    exact toggled

/-- **The newest load wins, in whatever order the answers arrive.**

* Tags are strictly increasing.
* An answer under any other tag than the latest returns false and changes nothing.
* The shown subject is that of the latest load, and the entities are those of the rows last taken
  under its tag, or there are none.
* Until rows are taken under the latest tag, every edit is refused and changes nothing. -/
theorem newest_load_wins {m : Matrix} {log : LoadLog} (run : Overlapping m log) :
    (Entries.keys log.begun).Pairwise (· > ·) ∧
    (log.begun = [] → m.entities = []) ∧
    ∀ latest subject earlier, log.begun = (latest, subject) :: earlier →
      (∀ tag, tag ≠ latest → (∀ rows, m.applyBaseline tag rows = .ok (m, false)) ∧
        ∀ error, m.failLoad tag error = (m, false)) ∧
      m.subject = subject ∧
      (m.entities = [] ∨ ∃ rows rows', Entries.get? latest log.taken = some rows ∧
        readRows rows = .ok rows' ∧ m.entities = Entries.keys rows') ∧
      (Entries.get? latest log.taken = none → ∀ entity permission enabled,
        (m.Refuses entity (m.toggle entity permission) ∧
          m.after (m.toggle entity permission) = m) ∧
        m.Refuses entity (m.setPermission entity permission enabled) ∧
          m.after (m.setPermission entity permission enabled) = m) := by
  have h := run.sequenced
  have entities : m.entities = Entries.keys m.baseline := h.cells
  refine ⟨h.increasing, fun hnone => ?_, fun latest subject earlier hlog => ?_⟩
  · rw [entities]
    refine h.loaded.resolve_right fun ⟨rows, _, htaken, _, _⟩ => ?_
    have hissued := h.issued _ (Entries.mem_keys_iff.mpr ⟨rows, htaken⟩)
    rw [hnone] at hissued
    nomatch hissued
  obtain ⟨rfl, rfl⟩ : m.sequencer.generation = latest ∧ m.subject = subject := by
    have hlatest := h.latest.resolve_left (hlog ▸ List.cons_ne_nil _ _)
    rw [hlog] at hlatest
    simpa [eq_comm] using hlatest
  refine ⟨fun tag htag => ⟨fun rows => ?_, failLoad_of_ne htag⟩, rfl, ?_, fun hnone => ?_⟩
  · exact ((m.applyBaseline_cases tag rows).resolve_right fun hcur => htag hcur.1).2
  · rw [entities]
    exact h.loaded
  · intro entity permission enabled
    have hb : Entries.keys m.baseline = [] := by
      refine h.loaded.resolve_right fun ⟨rows, _, htaken, _, _⟩ => ?_
      rw [hnone] at htaken
      nomatch htaken
    have hc : m.current = [] := List.map_eq_nil_iff.mp (h.cells.trans hb)
    obtain ⟨⟨reason, ht⟩, ⟨reason', hs⟩⟩ := refuses_of_no_cells hc entity permission enabled
    exact ⟨⟨⟨reason, ht⟩, by rw [ht]; rfl⟩, ⟨reason', hs⟩, by rw [hs]; rfl⟩

/-- The rows of bob, loaded after those of alice were asked for. -/
def overtakingRows : Value := .object [("orders", .object [("read", .bool false)])]

/-- A matrix that shows bob: the answer for alice came late. -/
def overtaken : Matrix where
  subject := .text "bob"
  baseline := [("orders", [(.text "read", .bool false)])]
  current := [("orders", [(.text "read", .bool false)])]
  sequencer := ⟨2⟩

def overtakenLog : LoadLog where
  begun := [(2, .text "bob"), (1, .text "alice")]
  taken := [(2, overtakingRows)]

theorem newest_load_wins_overtaken : Overlapping overtaken overtakenLog ∧
    (∀ rows, overtaken.applyBaseline 1 rows = .ok (overtaken, false)) ∧
    overtaken.subject = .text "bob" := by
  have begun : Overlapping _ _ := .beginLoad (.new (n := .int 4) rfl) (.text "alice")
  have overlapping := begun.beginLoad (.text "bob")
  have answered : Overlapping overtaken overtakenLog :=
    overlapping.applyBaseline (show 2 ∈ [2, 1] by decide) overtakingRows
  have late : Overlapping overtaken overtakenLog :=
    answered.applyBaseline (show 1 ∈ [2, 1] by decide) overtakingRows
  have wins := (newest_load_wins late).2.2 2 (.text "bob") _ rfl
  exact ⟨late, (wins.1 1 (by decide)).1, wins.2.1⟩

end AdminConsole.Matrix
