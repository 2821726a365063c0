import ColorCube.Store.Access

/-!
# Paths

A path leads from directory to directory. What is opened at a path is what stands where it leads to, and a file is
created where it leads to if no directory stands there.
-/

namespace ColorCube.Store

/-- A directory that is not closed. -/
def IsPassable (s : Store) (l : Location) : Prop := s.node? l = some .directory ∧ (s.medium l).closed = none

/-- Where a name leads to from a directory: the two names for itself and for the one above it are not looked up. -/
inductive StepsTo (s : Store) (l : Location) : String → Location → Prop where
  | stay (h : s.IsPassable l) : StepsTo s l "." l
  | up (h : s.IsPassable l) : StepsTo s l ".." l.dropLast
  | down {name : String} (h : s.IsPassable l) (hstay : name ≠ ".") (hup : name ≠ "..")
      (hlength : name.utf8ByteSize ≤ 255) : StepsTo s l name (l ++ [name])

inductive LeadsTo (s : Store) : Location → List String → Location → Prop where
  | here (l : Location) : LeadsTo s l [] l
  | on {l next place : Location} {name : String} {names : List String} (h : s.StepsTo l name next)
      (hrest : LeadsTo s next names place) : LeadsTo s l (name :: names) place

/-- A path at which something is opened: it leads to what stands at a place that is not closed, and that is a
directory if the path ends in a slash. -/
def Opens (s : Store) (path : String) (place : Location) (node : Node) : Prop :=
  ∃ r, s.route path = .ok r ∧ s.LeadsTo r.start r.names place ∧ s.node? place = some node ∧
    (r.isDirectory → node = .directory) ∧ (s.medium place).closed = none

/-- A path at which a file is created: its last name, with no slash behind it, leads to a place that is not closed
to writing, where a file stands or nothing. -/
def Creates (s : Store) (path : String) (place : Location) : Prop :=
  ∃ r, s.route path = .ok r ∧ r.names ≠ [] ∧ r.isDirectory = false ∧ s.LeadsTo r.start r.names place ∧
    s.node? place ≠ some .directory ∧ (s.medium place).closed = none ∧ (s.medium place).closedToWriting = none

variable {s : Store}

theorem enter_eq_ok_iff {l : Location} : s.enter l = .ok () ↔ s.IsPassable l := by
  unfold enter IsPassable
  rcases s.node? l with _ | ⟨bytes⟩ | _ <;> simp

theorem StepsTo.isPassable {l place : Location} {name : String} (h : s.StepsTo l name place) : s.IsPassable l := by
  cases h <;> assumption

theorem step_eq_ok_iff {l place : Location} {name : String} :
    s.step l name = .ok place ↔ s.StepsTo l name place := by
  unfold step
  constructor
  · intro h
    cases he : s.enter l with
    | error e => simp [he] at h
    | ok =>
      have hpassable := enter_eq_ok_iff.mp he
      simp only [he] at h
      by_cases hstay : name = "."
      · subst hstay
        obtain rfl : l = place := by simpa using h
        exact .stay hpassable
      · by_cases hup : name = ".."
        · subst hup
          obtain rfl : l.dropLast = place := by simpa using h
          exact .up hpassable
        · by_cases hlength : 255 < name.utf8ByteSize
          · simp [hstay, hup, hlength] at h
          · obtain rfl : l ++ [name] = place := by simpa [hstay, hup, hlength] using h
            exact .down hpassable hstay hup (Nat.not_lt.mp hlength)
  · intro h
    cases h with
    | stay h => simp [enter_eq_ok_iff.mpr h]
    | up h => simp [enter_eq_ok_iff.mpr h]
    | down h hstay hup hlength => simp [enter_eq_ok_iff.mpr h, hstay, hup, Nat.not_lt.mpr hlength]

theorem follow_eq_ok_iff {l place : Location} {names : List String} :
    s.follow l names = .ok place ↔ s.LeadsTo l names place := by
  constructor
  · intro h
    induction names generalizing l with
    | nil =>
      obtain rfl : l = place := Except.ok.inj h
      exact .here l
    | cons name names ih =>
      rw [follow] at h
      cases hs : s.step l name with
      | error e => simp [hs] at h
      | ok next =>
        rw [hs] at h
        exact .on (step_eq_ok_iff.mp hs) (ih h)
  · intro h
    induction h with
    | here l => rfl
    | on h _ ih =>
      rw [follow, step_eq_ok_iff.mpr h]
      exact ih

theorem leadsTo_concat_iff {l place : Location} {names : List String} {name : String} :
    s.LeadsTo l (names ++ [name]) place ↔ ∃ parent, s.LeadsTo l names parent ∧ s.StepsTo parent name place := by
  induction names generalizing l with
  | nil =>
    constructor
    · intro h
      cases h with
      | on h hrest =>
        cases hrest
        exact ⟨l, .here l, h⟩
    · rintro ⟨parent, hparent, h⟩
      cases hparent
      exact .on h (.here place)
  | cons first names ih =>
    constructor
    · intro h
      cases h with
      | on h hrest =>
        obtain ⟨parent, hparent, hlast⟩ := ih.mp hrest
        exact ⟨parent, .on h hparent, hlast⟩
    · rintro ⟨parent, hparent, hlast⟩
      cases hparent with
      | on h hrest => exact .on h (ih.mpr ⟨parent, hrest, hlast⟩)

theorem resolve_eq_ok_iff {path : String} {place : Location} {node : Node} :
    s.resolve path = .ok (place, node) ↔ s.Opens path place node := by
  unfold resolve Opens
  cases hr : s.route path with
  | error e => simp
  | ok r =>
    cases hf : s.follow r.start r.names with
    | error e => simp [← follow_eq_ok_iff, hf]
    | ok l =>
      simp only [← follow_eq_ok_iff, hf, Except.ok.injEq, exists_eq_left']
      constructor
      · intro h
        rcases hn : s.node? l with _ | ⟨bytes⟩ | _
        · simp [hn] at h
        · cases hd : r.isDirectory with
          | true => simp [hn, hd] at h
          | false =>
            simp only [hn, hd, Bool.false_eq_true, if_false, Medium.opened_eq_ok_iff, Prod.mk.injEq] at h
            obtain ⟨hclosed, rfl, rfl⟩ := h
            exact ⟨rfl, hn, fun hslash => absurd hslash Bool.false_ne_true, hclosed⟩
        · simp only [hn, Medium.opened_eq_ok_iff, Prod.mk.injEq] at h
          obtain ⟨hclosed, rfl, rfl⟩ := h
          exact ⟨rfl, hn, fun _ => rfl, hclosed⟩
      · rintro ⟨rfl, hn, hd, hclosed⟩
        rw [hn]
        cases node with
        | directory => simp [hclosed]
        | file bytes =>
          have hfile : r.isDirectory = false := by simpa using hd
          simp [hfile, hclosed]

/-- A file opens for what its medium lets be read of it, and a directory to fail when it is read. -/
theorem openSource_eq_ok_iff {path : String} {opened : Source} :
    s.openSource path = .ok opened ↔ ∃ place,
      (∃ bytes, s.Opens path place (.file bytes) ∧ opened = (s.medium place).source bytes) ∨
      s.Opens path place .directory ∧ opened = { bytes := [], fault := some (.system .isDirectory) } := by
  simp only [← resolve_eq_ok_iff]
  unfold openSource
  rcases s.resolve path with e | ⟨l, ⟨bytes⟩ | _⟩
  · exact iff_of_false nofun (by simp)
  · constructor
    · intro h
      exact ⟨l, .inl ⟨bytes, rfl, (Except.ok.inj h).symm⟩⟩
    · rintro ⟨place, ⟨content, hfile, rfl⟩ | ⟨hdirectory, -⟩⟩
      · cases hfile
        rfl
      · cases hdirectory
  · constructor
    · intro h
      exact ⟨l, .inr ⟨rfl, (Except.ok.inj h).symm⟩⟩
    · rintro ⟨place, ⟨content, hfile, -⟩ | ⟨hdirectory, rfl⟩⟩
      · cases hfile
      · cases hdirectory
        rfl

theorem openSource_of_resolve {path : String} {place : Location} {bytes : List UInt8}
    (h : s.resolve path = .ok (place, .file bytes)) : s.openSource path = .ok ((s.medium place).source bytes) :=
  openSource_eq_ok_iff.mpr ⟨place, .inl ⟨bytes, resolve_eq_ok_iff.mp h, rfl⟩⟩

theorem locateIn_eq_ok_iff {parent place : Location} {name : String} :
    s.locateIn parent name = .ok place ↔ s.StepsTo parent name place ∧ s.node? place ≠ some .directory ∧
      (s.medium place).closed = none ∧ (s.medium place).closedToWriting = none := by
  rw [locateIn, ← step_eq_ok_iff]
  cases s.step parent name with
  | error e => exact iff_of_false nofun fun h => nomatch h.1
  | ok l =>
    by_cases hl : s.node? l = some .directory
    · simp only [hl, if_true]
      refine iff_of_false nofun ?_
      rintro ⟨hplace, hnode, -⟩
      exact hnode (Except.ok.inj hplace ▸ hl)
    · simp only [hl, if_false, Medium.created_eq_ok_iff, Except.ok.injEq]
      constructor
      · rintro ⟨hclosed, hwriting, rfl⟩
        exact ⟨rfl, hl, hclosed, hwriting⟩
      · rintro ⟨rfl, -, hclosed, hwriting⟩
        exact ⟨hclosed, hwriting, rfl⟩

theorem locate_eq_ok_iff {path : String} {place : Location} :
    s.locate path = .ok place ↔ s.Creates path place := by
  unfold locate Creates
  cases hr : s.route path with
  | error e => simp
  | ok r =>
    simp only [Except.ok.injEq, exists_eq_left']
    rcases r.names.eq_nil_or_concat with hn | ⟨names, name, hn⟩
    · -- Without a last name there is nothing to be created.
      rw [hn]
      refine iff_of_false ?_ fun h => h.1 rfl
      cases s.follow r.start [].dropLast with
      | error e => exact nofun
      | ok parent =>
        dsimp only
        cases s.enter parent <;> exact nofun
    · rw [List.concat_eq_append] at hn
      rw [hn, List.dropLast_concat, List.getLast?_concat, leadsTo_concat_iff]
      simp only [← follow_eq_ok_iff]
      cases hf : s.follow r.start names with
      | error e => simp
      | ok parent =>
        simp only [Except.ok.injEq, exists_eq_left']
        cases he : s.enter parent with
        | error e =>
          refine iff_of_false nofun fun h => ?_
          rw [enter_eq_ok_iff.mpr h.2.2.1.isPassable] at he
          cases he
        | ok =>
          cases hd : r.isDirectory with
          | true => simp
          | false => simp [locateIn_eq_ok_iff]

example :
    let denied : SystemError := .refused "Permission denied (os error 13)"
    let s : Store :=
      { nodes := [(["lut.txt"], .file [])]
        medium := fun _ => { closedToWriting := some denied } }
    s.resolve "lut.txt" = .ok (["lut.txt"], .file []) ∧ s.locate "lut.txt" = .error denied :=
  ⟨rfl, rfl⟩

end ColorCube.Store
