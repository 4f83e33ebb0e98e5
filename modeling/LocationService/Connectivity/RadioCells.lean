import LocationService.Connectivity.Wifi
import Mathlib.Logic.Function.Basic

/-!
# The connected radio cells

`OfonoNmConnectivityManager` caches a `CachedRadioCell` for every modem with a
network registration.  A cell is announced when it is made, when it is dropped
from the cache, and whenever its validity changes; only valid cells are
enumerated.  Changes of a modem's interfaces are handled in a posted task, and
that task posts another one to make a missing cell.

An object outlives its place in the cache as long as a client holds it, and its
validity is announced for as long as it lives.
-/

namespace LocationService

open Library

/-- A `CachedRadioCell` object. -/
abbrev CellId := Nat

/-- `Modem::Properties::Interfaces::network_registration` -/
def networkRegistration : String := "org.ofono.NetworkRegistration"

/-- The tasks of the dispatcher. -/
inductive CellTask where
  | onModemInterfacesChanged (path : ObjectPath) (interfaces : List String)
  | createCell (path : ObjectPath)

/-- What happens to the cells.  `made` is what comes of constructing a cell:
its validity, or `none` if the constructor throws. -/
inductive CellEvent where
  | modemAdded (path : ObjectPath) (made : Option Bool)
  | modemRemoved (path : ObjectPath)
  | interfacesChanged (path : ObjectPath) (interfaces : List String)
  | runTask (made : Option Bool)
  | validityChanged (cell : CellId) (valid : Bool)
  | dropped (cell : CellId)

/-- The modem and cell caches, the cell objects, the cells that clients hold,
the tasks that wait, oldest first, and the announcements made. -/
structure RadioCells where
  modems : Std.ExtTreeSet ObjectPath := ∅
  cells : Std.ExtTreeMap ObjectPath CellId := ∅
  isValid : CellId → Bool := fun _ => false
  clients : List CellId := []
  nextCell : CellId := 0
  dispatcher : List CellTask := []
  announced : Announcements CellId := []

namespace RadioCells

/-- The cell is in the cache. -/
def IsCached (cell : CellId) (s : RadioCells) : Prop :=
  ∃ path : ObjectPath, s.cells[path]? = some cell

instance (cell : CellId) (s : RadioCells) : Decidable (s.IsCached cell) :=
  decidable_of_iff (∃ p ∈ s.cells.toList, p.2 = cell) (by
    constructor
    · rintro ⟨p, hp, rfl⟩
      exact ⟨p.1, Std.ExtTreeMap.mem_toList_iff_getElem?_eq_some.mp hp⟩
    · rintro ⟨path, hpath⟩
      exact ⟨(path, cell),
        Std.ExtTreeMap.mem_toList_iff_getElem?_eq_some.mpr hpath, rfl⟩)

/-- `enumerate_connected_radio_cells`: only valid cells are reported. -/
def enumerateConnectedRadioCells (s : RadioCells) : List CellId :=
  s.cells.toList.filterMap fun p => if s.isValid p.2 then some p.2 else none

/-- The signals `connected_cell_added` and `connected_cell_removed` hand the
cell to the clients, which may keep it. -/
def announce (cell : CellId) (added : Bool) (s : RadioCells) : RadioCells :=
  { s with
    announced := (cell, added) :: s.announced
    clients := cell :: s.clients }

/-- `std::make_shared<CachedRadioCell>` -/
def makeCell (valid : Bool) (s : RadioCells) : RadioCells :=
  { s with
    isValid := Function.update s.isValid s.nextCell valid
    nextCell := s.nextCell + 1 }

/-- `Private::on_modem_added` -/
def onModemAdded (path : ObjectPath) (made : Option Bool) (s : RadioCells) :
    RadioCells :=
  if path ∈ s.modems then s
  else
    let s := { s with modems := s.modems.insert path }
    match made with
    | none => s
    | some valid =>
        let cell := s.nextCell
        let s := s.makeCell valid
        if path ∈ s.cells then s
        else announce cell true { s with cells := s.cells.insert path cell }

/-- `Private::on_modem_removed` -/
def onModemRemoved (path : ObjectPath) (s : RadioCells) : RadioCells :=
  match s.cells[path]? with
  | some cell =>
      announce cell false
        { s with
          cells := s.cells.erase path
          modems := s.modems.erase path }
  | none => { s with modems := s.modems.erase path }

/-- `Private::on_modem_interfaces_changed` -/
def onModemInterfacesChanged (path : ObjectPath) (interfaces : List String)
    (s : RadioCells) : RadioCells :=
  if path ∉ s.modems then s
  else
    match s.cells[path]?, decide (networkRegistration ∈ interfaces) with
    | some cell, false =>
        announce cell false { s with cells := s.cells.erase path }
    | none, true => { s with dispatcher := s.dispatcher ++ [.createCell path] }
    | _, _ => s

/-- The task that `on_modem_interfaces_changed` posts: the new cell is
announced whether or not the cache takes it. -/
def createCell (path : ObjectPath) (made : Option Bool) (s : RadioCells) :
    RadioCells :=
  if path ∉ s.modems then s
  else
    match made with
    | none => s
    | some valid =>
        let cell := s.nextCell
        let s := s.makeCell valid
        announce cell true { s with cells := s.cells.insertIfNew path cell }

def runTask (made : Option Bool) (s : RadioCells) : RadioCells :=
  match s.dispatcher with
  | [] => s
  | .onModemInterfacesChanged path interfaces :: rest =>
      onModemInterfacesChanged path interfaces { s with dispatcher := rest }
  | .createCell path :: rest =>
      createCell path made { s with dispatcher := rest }

/-- The slot on the validity of a cell, which holds the cell weakly.  A
property that is assigned the value it has announces nothing. -/
def onValidityChanged (cell : CellId) (valid : Bool) (s : RadioCells) :
    RadioCells :=
  if (s.IsCached cell ∨ cell ∈ s.clients) ∧ s.isValid cell ≠ valid then
    announce cell valid
      { s with isValid := Function.update s.isValid cell valid }
  else s

def next : CellEvent → RadioCells → RadioCells
  | .modemAdded path made, s => s.onModemAdded path made
  | .modemRemoved path, s => s.onModemRemoved path
  | .interfacesChanged path interfaces, s =>
      { s with
        dispatcher :=
          s.dispatcher ++ [.onModemInterfacesChanged path interfaces] }
  | .runTask made, s => s.runTask made
  | .validityChanged cell valid, s => s.onValidityChanged cell valid
  | .dropped cell, s => { s with clients := s.clients.filter (· ≠ cell) }

/-! ## Announcements and cache -/

/-- The announcements about every cell alternate, and with no task waiting the
cells announced last as added are those that are enumerated. -/
def AnnouncesConnected (s : RadioCells) : Prop :=
  s.announced.Alternate ∧
    (s.dispatcher = [] → ∀ cell,
      Announcements.isPresent cell s.announced = true ↔
        cell ∈ s.enumerateConnectedRadioCells)

/-- The announcements mirror the valid cells of the cache. -/
def MirrorsCache (s : RadioCells) : Prop :=
  s.announced.Mirrors fun cell => s.IsCached cell ∧ s.isValid cell = true

theorem mem_enumerate_iff {s : RadioCells} {cell : CellId} :
    cell ∈ s.enumerateConnectedRadioCells ↔
      s.IsCached cell ∧ s.isValid cell = true := by
  unfold enumerateConnectedRadioCells IsCached
  rw [List.mem_filterMap]
  constructor
  · rintro ⟨p, hp, hcell⟩
    by_cases hvalid : s.isValid p.2 = true
    · have heq : p.2 = cell := by simpa [hvalid] using hcell
      rw [Std.ExtTreeMap.mem_toList_iff_getElem?_eq_some, heq] at hp
      exact ⟨⟨p.1, hp⟩, heq ▸ hvalid⟩
    · simp [hvalid] at hcell
  · rintro ⟨⟨path, hpath⟩, hvalid⟩
    exact ⟨(path, cell),
      Std.ExtTreeMap.mem_toList_iff_getElem?_eq_some.mpr hpath,
      by simp [hvalid]⟩

/-- Mirroring the cache is what the announcements are asked for, also while
tasks wait. -/
theorem MirrorsCache.announcesConnected {s : RadioCells}
    (h : s.MirrorsCache) : s.AnnouncesConnected := by
  constructor
  · exact h.1
  · intro _ cell
    rw [h.2 cell, mem_enumerate_iff]

/-- Cached cells are older than the next one, and each is cached once. -/
structure Inv (s : RadioCells) : Prop where
  fresh : ∀ cell, s.IsCached cell → cell < s.nextCell
  once : ∀ (path path' : ObjectPath) (cell : CellId),
    s.cells[path]? = some cell → s.cells[path']? = some cell → path = path'

/-- The next cell is a new one. -/
theorem Inv.not_isCached_nextCell {s : RadioCells} (h : s.Inv) :
    ¬ s.IsCached s.nextCell := by
  intro hcached
  exact absurd (h.fresh _ hcached) (Nat.lt_irrefl _)

theorem isCached_congr {s t : RadioCells} (h : t.cells = s.cells)
    (cell : CellId) : t.IsCached cell ↔ s.IsCached cell := by
  unfold IsCached
  rw [h]

/-! ## The three kinds of announcements -/

/-- Fewer cached cells keep the invariant. -/
theorem Inv.of_subset {s t : RadioCells} (h : s.Inv)
    (hcells : ∀ (path : ObjectPath) (cell : CellId),
      t.cells[path]? = some cell → s.cells[path]? = some cell)
    (hnext : s.nextCell ≤ t.nextCell) : t.Inv where
  fresh := by
    rintro cell ⟨path, hpath⟩
    have hlt := h.fresh cell ⟨path, hcells path cell hpath⟩
    exact Nat.lt_of_lt_of_le hlt hnext
  once := by
    intro path path' cell hpath hpath'
    exact h.once path path' cell (hcells path cell hpath)
      (hcells path' cell hpath')

/-- So does a new cell. -/
theorem Inv.of_insert {s t : RadioCells} (h : s.Inv) (path : ObjectPath)
    (hcells : ∀ p : ObjectPath, t.cells[p]? =
      if path = p then some s.nextCell else s.cells[p]?)
    (hnext : t.nextCell = s.nextCell + 1) : t.Inv where
  fresh := by
    rintro cell ⟨p, hp⟩
    rw [hcells] at hp
    split at hp
    · have heq : s.nextCell = cell := Option.some.inj hp
      rw [← heq, hnext]
      exact Nat.lt_succ_self _
    · have hlt := h.fresh cell ⟨p, hp⟩
      rw [hnext]
      exact Nat.lt_succ_of_lt hlt
  once := by
    intro p p' cell hp hp'
    rw [hcells] at hp hp'
    split at hp <;> split at hp'
    · rename_i heq heq'
      exact heq.symm.trans heq'
    · have heq : s.nextCell = cell := Option.some.inj hp
      have hlt := h.fresh cell ⟨p', hp'⟩
      exact absurd (heq ▸ hlt) (Nat.lt_irrefl _)
    · have heq : s.nextCell = cell := Option.some.inj hp'
      have hlt := h.fresh cell ⟨p, hp⟩
      exact absurd (heq ▸ hlt) (Nat.lt_irrefl _)
    · exact h.once p p' cell hp hp'

/-- A step that touches neither the cached cells nor their validity and
announces nothing. -/
theorem MirrorsCache.of_same {s t : RadioCells} (h : s.MirrorsCache)
    (hcells : t.cells = s.cells) (hvalid : t.isValid = s.isValid)
    (hannounced : t.announced = s.announced) : t.MirrorsCache := by
  unfold MirrorsCache IsCached at h ⊢
  rw [hcells, hvalid, hannounced]
  exact h

/-- Dropping a cell from the cache is announced properly exactly if the cell
is valid. -/
theorem MirrorsCache.drop_iff {s t : RadioCells} (h : s.MirrorsCache)
    (hinv : s.Inv) {path : ObjectPath} {cell : CellId}
    (hcell : s.cells[path]? = some cell)
    (hcells : t.cells = s.cells.erase path) (hvalid : t.isValid = s.isValid)
    (hannounced : t.announced = (cell, false) :: s.announced) :
    t.MirrorsCache ↔ s.isValid cell = true := by
  have hcached : ∀ c, t.IsCached c ↔ s.IsCached c ∧ c ≠ cell := by
    intro c
    unfold IsCached
    rw [hcells]
    constructor
    · rintro ⟨p, hp⟩
      rw [Std.ExtTreeMap.getElem?_erase] at hp
      split at hp
      · cases hp
      · rename_i hne
        refine ⟨⟨p, hp⟩, ?_⟩
        intro heq
        rw [heq] at hp
        have hpath := hinv.once path p cell hcell hp
        simp [hpath] at hne
    · rintro ⟨⟨p, hp⟩, hne⟩
      refine ⟨p, ?_⟩
      have hpath : path ≠ p := by
        intro heq
        rw [heq, hp] at hcell
        exact hne (Option.some.inj hcell)
      simp [Std.ExtTreeMap.getElem?_erase, hpath, hp]
  have hthere : s.IsCached cell := ⟨path, hcell⟩
  unfold MirrorsCache
  rw [hannounced, Announcements.Mirrors.cons_iff h]
  · simp [hcached, hthere]
  · intro c hne
    rw [hcached, hvalid]
    simp [hne]

/-- A new cell in the cache is announced properly exactly if it is valid. -/
theorem MirrorsCache.make_iff {s t : RadioCells} (h : s.MirrorsCache)
    (hinv : s.Inv) (path : ObjectPath) (valid : Bool)
    (habsent : path ∉ s.cells)
    (hcells : ∀ p : ObjectPath, t.cells[p]? =
      if path = p then some s.nextCell else s.cells[p]?)
    (hvalid : t.isValid = Function.update s.isValid s.nextCell valid)
    (hannounced : t.announced = (s.nextCell, true) :: s.announced) :
    t.MirrorsCache ↔ valid = true := by
  have hnew := hinv.not_isCached_nextCell
  have hcached : ∀ c, t.IsCached c ↔ s.nextCell = c ∨ s.IsCached c := by
    intro c
    unfold IsCached
    constructor
    · rintro ⟨p, hp⟩
      rw [hcells] at hp
      split at hp
      · exact .inl (Option.some.inj hp)
      · exact .inr ⟨p, hp⟩
    · rintro (heq | ⟨p, hp⟩)
      · exact ⟨path, by simp [hcells, heq]⟩
      · refine ⟨p, ?_⟩
        have hne : path ≠ p := by
          intro heq
          rw [← heq] at hp
          simp [Std.ExtTreeMap.mem_iff_isSome_getElem?, hp] at habsent
        simp [hcells, hne, hp]
  unfold MirrorsCache
  rw [hannounced, Announcements.Mirrors.cons_iff h]
  · simp [hcached, hnew, hvalid]
  · intro c hne
    rw [hcached, hvalid, Function.update_of_ne hne]
    simp [hne.symm]

/-- A new cell that the cache does not take is announced all the same. -/
theorem MirrorsCache.not_make_uncached {s t : RadioCells}
    (h : s.MirrorsCache) (hinv : s.Inv) (valid : Bool)
    (hcells : t.cells = s.cells)
    (hvalid : t.isValid = Function.update s.isValid s.nextCell valid)
    (hannounced : t.announced = (s.nextCell, true) :: s.announced) :
    ¬ t.MirrorsCache := by
  have hnew := hinv.not_isCached_nextCell
  have hcached := isCached_congr hcells
  unfold MirrorsCache
  rw [hannounced, Announcements.Mirrors.cons_iff h]
  · simp [hcached, hnew]
  · intro c hne
    rw [hcached, hvalid, Function.update_of_ne hne]

/-- A change of validity is announced properly exactly if the cell is
cached. -/
theorem MirrorsCache.validity_iff {s t : RadioCells} (h : s.MirrorsCache)
    {cell : CellId} {valid : Bool} (hchange : s.isValid cell ≠ valid)
    (hcells : t.cells = s.cells)
    (hvalid : t.isValid = Function.update s.isValid cell valid)
    (hannounced : t.announced = (cell, valid) :: s.announced) :
    t.MirrorsCache ↔ s.IsCached cell := by
  have hcached := isCached_congr hcells
  unfold MirrorsCache
  rw [hannounced, Announcements.Mirrors.cons_iff h]
  · rw [hcached, hvalid, Function.update_self]
    have hbefore : s.isValid cell = !valid := by
      cases hv : s.isValid cell <;> cases valid <;> simp_all
    by_cases hthere : s.IsCached cell
    · cases valid <;> simp [hthere, hbefore]
    · cases valid <;> simp [hthere]
  · intro c hne
    rw [hcached, hvalid, Function.update_of_ne hne]

/-- Making an object announces nothing by itself. -/
theorem MirrorsCache.of_made {s t : RadioCells} (h : s.MirrorsCache)
    (hinv : s.Inv) {valid : Bool} (hcells : t.cells = s.cells)
    (hvalid : t.isValid = Function.update s.isValid s.nextCell valid)
    (hannounced : t.announced = s.announced) : t.MirrorsCache := by
  unfold MirrorsCache
  rw [hannounced, Announcements.Mirrors.set_iff h]
  intro c
  rw [isCached_congr hcells, hvalid]
  apply and_congr_right
  intro hcached
  have hne : c ≠ s.nextCell := Nat.ne_of_lt (hinv.fresh c hcached)
  rw [Function.update_of_ne hne]

/-! ## One event -/

private theorem getElem?_erase_of_some {m : Std.ExtTreeMap ObjectPath CellId}
    {path p : ObjectPath} {cell : CellId} (h : (m.erase path)[p]? = some cell) :
    m[p]? = some cell := by
  rw [Std.ExtTreeMap.getElem?_erase] at h
  split at h
  · cases h
  · exact h

theorem Inv.onModemAdded {s : RadioCells} (h : s.Inv) (path : ObjectPath)
    (made : Option Bool) : (s.onModemAdded path made).Inv := by
  unfold RadioCells.onModemAdded
  split
  · exact h
  · cases made with
    | none => exact h.of_subset (fun _ _ hp => hp) (Nat.le_refl _)
    | some valid =>
        simp only
        split
        · exact h.of_subset (fun _ _ hp => hp) (Nat.le_succ _)
        · exact h.of_insert path
            (fun p => by
              simp [announce, makeCell, Std.ExtTreeMap.getElem?_insert]) rfl

theorem Inv.onModemRemoved {s : RadioCells} (h : s.Inv) (path : ObjectPath) :
    (s.onModemRemoved path).Inv := by
  unfold RadioCells.onModemRemoved
  split
  · exact h.of_subset (fun _ _ hp => getElem?_erase_of_some hp) (Nat.le_refl _)
  · exact h.of_subset (fun _ _ hp => hp) (Nat.le_refl _)

theorem Inv.onModemInterfacesChanged {s : RadioCells} (h : s.Inv)
    (path : ObjectPath) (interfaces : List String) :
    (s.onModemInterfacesChanged path interfaces).Inv := by
  unfold RadioCells.onModemInterfacesChanged
  split
  · exact h
  · split
    · exact h.of_subset (fun _ _ hp => getElem?_erase_of_some hp)
        (Nat.le_refl _)
    · exact h.of_subset (fun _ _ hp => hp) (Nat.le_refl _)
    · exact h

theorem Inv.createCell {s : RadioCells} (h : s.Inv) (path : ObjectPath)
    (made : Option Bool) : (s.createCell path made).Inv := by
  unfold RadioCells.createCell
  split
  · exact h
  · cases made with
    | none => exact h
    | some valid =>
        by_cases hcell : path ∈ s.cells
        · refine h.of_subset ?_ (Nat.le_succ _)
          intro p cell hp
          simpa [announce, makeCell, Std.ExtTreeMap.getElem?_insertIfNew,
            hcell] using hp
        · refine h.of_insert path ?_ rfl
          intro p
          simp [announce, makeCell, Std.ExtTreeMap.getElem?_insertIfNew, hcell]

theorem Inv.next {s : RadioCells} (h : s.Inv) (e : CellEvent) :
    (next e s).Inv := by
  have hrest : ∀ rest, Inv { s with dispatcher := rest } := by
    intro rest
    exact h.of_subset (fun _ _ hp => hp) (Nat.le_refl _)
  cases e with
  | modemAdded path made => exact h.onModemAdded path made
  | modemRemoved path => exact h.onModemRemoved path
  | interfacesChanged path interfaces => exact hrest _
  | runTask made =>
      show (s.runTask made).Inv
      unfold RadioCells.runTask
      split
      · exact h
      · exact (hrest _).onModemInterfacesChanged _ _
      · exact (hrest _).createCell _ _
  | validityChanged cell valid =>
      show (s.onValidityChanged cell valid).Inv
      unfold onValidityChanged
      split
      · exact h.of_subset (fun _ _ hp => hp) (Nat.le_refl _)
      · exact h
  | dropped cell => exact h.of_subset (fun _ _ hp => hp) (Nat.le_refl _)

/-- The next task drops a cell only while it is valid, and makes one only for
a modem without one, and a valid one. -/
def ProperTask (made : Option Bool) (s : RadioCells) : List CellTask → Prop
  | [] => True
  | .onModemInterfacesChanged path interfaces :: _ =>
      path ∈ s.modems ∧ networkRegistration ∉ interfaces →
        ∀ cell ∈ s.cells[path]?, s.isValid cell = true
  | .createCell path :: _ =>
      path ∈ s.modems → ∀ valid ∈ made, path ∉ s.cells ∧ valid = true

instance (made : Option Bool) (s : RadioCells) :
    ∀ tasks, Decidable (ProperTask made s tasks)
  | [] => .isTrue trivial
  | .onModemInterfacesChanged path interfaces :: _ =>
      inferInstanceAs (Decidable (path ∈ s.modems ∧
        networkRegistration ∉ interfaces → ∀ cell ∈ s.cells[path]?, _))
  | .createCell path :: _ =>
      inferInstanceAs (Decidable (path ∈ s.modems → ∀ valid ∈ made, _))

/-- Cells are dropped from the cache only while they are valid, made only for
modems without one and valid from the start, and the validity of a cell does
not change once it has left the cache. -/
def Proper : CellEvent → RadioCells → Prop
  | .modemAdded path made, s =>
      path ∉ s.modems ∧ path ∉ s.cells → made ≠ some false
  | .modemRemoved path, s => ∀ cell ∈ s.cells[path]?, s.isValid cell = true
  | .interfacesChanged .., _ => True
  | .runTask made, s => ProperTask made s s.dispatcher
  | .validityChanged cell valid, s =>
      cell ∈ s.clients → s.isValid cell ≠ valid → s.IsCached cell
  | .dropped _, _ => True

instance : ∀ e s, Decidable (Proper e s)
  | .modemAdded .., _ => inferInstanceAs (Decidable (_ → _))
  | .modemRemoved _, _ => inferInstanceAs (Decidable (∀ _ ∈ _, _))
  | .interfacesChanged .., _ => .isTrue trivial
  | .runTask made, s =>
      inferInstanceAs (Decidable (ProperTask made s s.dispatcher))
  | .validityChanged .., _ => inferInstanceAs (Decidable (_ → _ → _))
  | .dropped _, _ => .isTrue trivial

theorem mirrors_onModemAdded_iff {s : RadioCells} (h : s.MirrorsCache)
    (hinv : s.Inv) (path : ObjectPath) (made : Option Bool) :
    (s.onModemAdded path made).MirrorsCache ↔
      Proper (.modemAdded path made) s := by
  unfold RadioCells.onModemAdded Proper
  by_cases hknown : path ∈ s.modems
  · simp [hknown, h]
  simp only [hknown, if_false, not_false_eq_true, true_and]
  cases made with
  | none =>
      have hsame : MirrorsCache { s with modems := s.modems.insert path } :=
        h.of_same rfl rfl rfl
      simp [hsame]
  | some valid =>
      by_cases hcell : path ∈ s.cells
      · have hmade : MirrorsCache
            (makeCell valid { s with modems := s.modems.insert path }) :=
          h.of_made hinv rfl rfl rfl
        simpa [makeCell, hcell] using hmade
      · have hiff := h.make_iff hinv path valid
          (t := announce s.nextCell true
            { makeCell valid { s with modems := s.modems.insert path } with
              cells := s.cells.insert path s.nextCell })
          hcell (fun p => by simp [announce, Std.ExtTreeMap.getElem?_insert])
          rfl rfl
        simpa [makeCell, hcell] using hiff

theorem mirrors_onModemRemoved_iff {s : RadioCells} (h : s.MirrorsCache)
    (hinv : s.Inv) (path : ObjectPath) :
    (s.onModemRemoved path).MirrorsCache ↔ Proper (.modemRemoved path) s := by
  unfold RadioCells.onModemRemoved Proper
  cases hcell : s.cells[path]? with
  | none =>
      have hsame : MirrorsCache { s with modems := s.modems.erase path } :=
        h.of_same rfl rfl rfl
      simp [hcell, hsame]
  | some cell =>
      have hiff := h.drop_iff hinv hcell (t := announce cell false
        { s with
          cells := s.cells.erase path
          modems := s.modems.erase path }) rfl rfl rfl
      simpa [hcell] using hiff

theorem mirrors_onModemInterfacesChanged_iff {s : RadioCells}
    (h : s.MirrorsCache) (hinv : s.Inv) (path : ObjectPath)
    (interfaces : List String) :
    (s.onModemInterfacesChanged path interfaces).MirrorsCache ↔
      (path ∈ s.modems ∧ networkRegistration ∉ interfaces →
        ∀ cell ∈ s.cells[path]?, s.isValid cell = true) := by
  unfold RadioCells.onModemInterfacesChanged
  by_cases hknown : path ∈ s.modems
  · cases hcell : s.cells[path]? with
    | none =>
        by_cases hreg : networkRegistration ∈ interfaces
        · have hsame : MirrorsCache
              { s with dispatcher := s.dispatcher ++ [.createCell path] } :=
            h.of_same rfl rfl rfl
          simp [hknown, hreg, hsame]
        · simp [hknown, hreg, h]
    | some cell =>
        by_cases hreg : networkRegistration ∈ interfaces
        · simp [hknown, hreg, h]
        · have hiff := h.drop_iff hinv hcell (t := announce cell false
            { s with cells := s.cells.erase path }) rfl rfl rfl
          simpa [hknown, hreg] using hiff
  · simp [hknown, h]

theorem mirrors_createCell_iff {s : RadioCells} (h : s.MirrorsCache)
    (hinv : s.Inv) (path : ObjectPath) (made : Option Bool) :
    (s.createCell path made).MirrorsCache ↔
      (path ∈ s.modems → ∀ valid ∈ made, path ∉ s.cells ∧ valid = true) := by
  unfold RadioCells.createCell
  by_cases hknown : path ∈ s.modems
  · cases made with
    | none => simp [hknown, h]
    | some valid =>
        by_cases hcell : path ∈ s.cells
        · have hnot := h.not_make_uncached hinv valid
            (t := announce s.nextCell true
              { makeCell valid s with
                cells := s.cells.insertIfNew path s.nextCell })
            (by
              apply Std.ExtTreeMap.ext_getElem?
              intro p
              simp [announce, Std.ExtTreeMap.getElem?_insertIfNew, hcell])
            rfl rfl
          simpa [makeCell, hknown, hcell] using hnot
        · have hiff := h.make_iff hinv path valid
            (t := announce s.nextCell true
              { makeCell valid s with
                cells := s.cells.insertIfNew path s.nextCell })
            hcell
            (fun p => by
              simp [announce, Std.ExtTreeMap.getElem?_insertIfNew, hcell])
            rfl rfl
          simpa [makeCell, hknown, hcell] using hiff
  · simp [hknown, h]

theorem mirrors_onValidityChanged_iff {s : RadioCells} (h : s.MirrorsCache)
    (cell : CellId) (valid : Bool) :
    (s.onValidityChanged cell valid).MirrorsCache ↔
      Proper (.validityChanged cell valid) s := by
  unfold onValidityChanged Proper
  by_cases hchange : s.isValid cell ≠ valid
  · by_cases halive : s.IsCached cell ∨ cell ∈ s.clients
    · have hiff := h.validity_iff hchange (t := announce cell valid
        { s with isValid := Function.update s.isValid cell valid }) rfl rfl rfl
      rw [if_pos ⟨halive, hchange⟩, hiff]
      constructor
      · intro hcached _ _
        exact hcached
      · intro hproper
        exact halive.elim id fun hclient => hproper hclient hchange
    · rw [if_neg (fun hboth => halive hboth.1)]
      constructor
      · intro _ hclient
        exact absurd (Or.inr hclient) halive
      · intro _
        exact h
  · rw [if_neg (fun hboth => hchange hboth.2)]
    constructor
    · intro _ _ hne
      exact absurd hne hchange
    · intro _
      exact h

/-- An event keeps the announcements a mirror of the cache exactly if it is a
proper one. -/
theorem mirrors_next_iff {s : RadioCells} (h : s.MirrorsCache) (hinv : s.Inv)
    (e : CellEvent) : (next e s).MirrorsCache ↔ Proper e s := by
  have hrest : ∀ rest, MirrorsCache { s with dispatcher := rest } ∧
      Inv { s with dispatcher := rest } := by
    intro rest
    constructor
    · exact h.of_same rfl rfl rfl
    · exact hinv.of_subset (fun _ _ hp => hp) (Nat.le_refl _)
  cases e with
  | modemAdded path made => exact mirrors_onModemAdded_iff h hinv path made
  | modemRemoved path => exact mirrors_onModemRemoved_iff h hinv path
  | interfacesChanged path interfaces =>
      exact ⟨fun _ => trivial, fun _ => (hrest _).1⟩
  | runTask made =>
      show (s.runTask made).MirrorsCache ↔ ProperTask made s s.dispatcher
      unfold RadioCells.runTask
      cases s.dispatcher with
      | nil => exact ⟨fun _ => trivial, fun _ => h⟩
      | cons task rest =>
          cases task with
          | onModemInterfacesChanged path interfaces =>
              exact mirrors_onModemInterfacesChanged_iff (hrest rest).1
                (hrest rest).2 path interfaces
          | createCell path =>
              exact mirrors_createCell_iff (hrest rest).1 (hrest rest).2 path
                made
  | validityChanged cell valid => exact mirrors_onValidityChanged_iff h cell valid
  | dropped cell => exact ⟨fun _ => trivial, fun _ => h.of_same rfl rfl rfl⟩

/-! ## Every order of events and tasks -/

/-- The manager under modem events, tasks and changes of validity. -/
def machine : Machine RadioCells CellEvent := .ofStep {} next

/-- While all events are proper, the announcements about cells match the
cache, with or without waiting tasks, and the first improper event breaks
that. -/
theorem connected_cells_announced {s : RadioCells}
    (h : machine.Reach Proper s) :
    s.AnnouncesConnected ∧ s.MirrorsCache ∧
      ∀ e, (next e s).MirrorsCache ↔ Proper e s := by
  have hinv : Inv {} := by
    constructor
    · rintro cell ⟨path, hpath⟩
      simp at hpath
    · intro path path' cell hpath
      simp at hpath
  have hmirrors : MirrorsCache {} := by
    apply (Announcements.mirrors_nil.set_iff).mpr
    intro cell
    simp [IsCached]
  have hkept := h.ofStep_keeps_exactly Inv MirrorsCache ⟨hinv, hmirrors⟩
    (fun e _ hs => hs.next e) (fun e _ hs hm => mirrors_next_iff hm hs e)
  exact ⟨hkept.2.1.announcesConnected, hkept.2.1, hkept.2.2⟩

/-- A modem comes with a cell, loses its network registration, regains it, and
its new cell becomes invalid and valid again before the modem is removed. -/
theorem connected_cells_announced_one_modem :
    ∃ s, machine.Reach Proper s ∧
      s.dispatcher = [] ∧ s.announced.length = 6 ∧
      s.AnnouncesConnected ∧ s.MirrorsCache ∧
      ∀ e, (next e s).MirrorsCache ↔ Proper e s := by
  have hrun : (Machine.replay (fun e s => some (next e s)) Proper
      [.modemAdded "/ril_0" (some true), .interfacesChanged "/ril_0" [],
        .runTask none, .interfacesChanged "/ril_0" [networkRegistration],
        .runTask none, .runTask (some true), .validityChanged 1 false,
        .validityChanged 1 true, .modemRemoved "/ril_0"] {}).any
      (fun s => decide (s.dispatcher = [] ∧ s.announced.length = 6)) =
        true := by decide
  obtain ⟨s, hreach, hempty, hlength⟩ :=
    Machine.Reach.ofStep_exists_of_replay _ hrun
  exact ⟨s, hreach, hempty, hlength, connected_cells_announced hreach⟩

/-- A cell that is invalid already is announced as removed a second time when
its modem goes away; and a registration that is reported twice makes two cells,
one of which is announced without being cached. -/
theorem connected_cells_announced_wrongly :
    (¬ ∀ s, machine.Reach (fun _ _ => True) s → s.announced.Alternate) ∧
    ¬ ∀ s, machine.Reach (fun _ _ => True) s → s.dispatcher = [] → ∀ cell,
      Announcements.isPresent cell s.announced = true ↔
        cell ∈ s.enumerateConnectedRadioCells := by
  constructor
  · intro hall
    have hrun : (Machine.replay (fun e s => some (next e s)) (fun _ _ => True)
        [.modemAdded "/ril_0" (some true), .validityChanged 0 false,
          .modemRemoved "/ril_0"] {}).any
        (fun s => decide (¬ s.announced.Alternate)) = true := by decide
    obtain ⟨s, hreach, hnot⟩ := Machine.Reach.ofStep_exists_of_replay _ hrun
    exact hnot (hall s hreach)
  · intro hall
    have hrun : (Machine.replay (fun e s => some (next e s)) (fun _ _ => True)
        [.modemAdded "/ril_0" (some true), .interfacesChanged "/ril_0" [],
          .interfacesChanged "/ril_0" [networkRegistration],
          .interfacesChanged "/ril_0" [networkRegistration],
          .runTask none, .runTask none, .runTask none,
          .runTask (some true), .runTask (some true)] {}).any
        (fun s => decide (s.dispatcher = [] ∧
          Announcements.isPresent 2 s.announced = true ∧
          2 ∉ s.enumerateConnectedRadioCells)) = true := by decide
    obtain ⟨s, hreach, hempty, hpresent, hnot⟩ :=
      Machine.Reach.ofStep_exists_of_replay _ hrun
    exact hnot ((hall s hreach hempty 2).mp hpresent)

end RadioCells

end LocationService
