/-
# A path shows what was last done to it

In a session of scratch owners every path shows the last change that was made to it:
the whole file of the owner that was created last, or nothing if some owner of the path
was removed or dropped since, be it the owner of this file or of another one at the same
path. Keeping changes nothing, and a name whose owner was removed or kept does nothing
until it is given to a new owner. Places that no change was about stay as they were.

Key definitions: `Session.Change`, `Session.history`, `Session.Shows`, `Disk.PlainPaths`,
`Session.Point`.
Key theorems: `Session.Reflects.change`, `Session.step_reflects`, `Session.run_reflects`,
`Session.run_of_ownerless`, `Session.last_change_shows`.
-/
import StressBench.Proofs.Disk.Naming
import StressBench.Scratch.Session

namespace StressBench

/-- The paths name files or free names, and different paths different ones. -/
structure Disk.PlainPaths (d : Disk) (cwd : Location) (ps : List Path) : Prop where
  named : ∀ p ∈ ps, ∃ loc, d.NamesFile cwd p loc
  apart : ∀ p ∈ ps, ∀ q ∈ ps, ∀ loc, d.NamesFile cwd p loc → d.NamesFile cwd q loc → p = q

namespace Scratch
namespace Session

/-! ### Changes -/

/-- What an event does to a path. -/
inductive Change
  | written (path : Path) (body : List Text)
  | deleted (path : Path)
  deriving DecidableEq, Repr

def Change.path : Change → Path
  | .written path _ => path
  | .deleted path => path

/-- The changes that an event makes. A creation that fails makes none; one under a name in
use ends the owner of this name afterwards. -/
def changes (cwd : Location) (s : Session) : Event → List Change
  | .create name path body =>
    match (s.create cwd name path (.ofList body)).1 with
    | .error _ => []
    | .ok _ => .written path body :: ((s.owners.lookup name).map fun o => .deleted o.path).toList
  | .remove name | .drop name => ((s.owners.lookup name).map fun o => .deleted o.path).toList
  | .keep _ => []

/-- The changes of a run, in order. -/
def history (cwd : Location) : Session → List Event → List Change
  | _, [] => []
  | s, e :: events => s.changes cwd e ++ history cwd (s.step cwd e).2 events

/-- The last of the changes that is about a path. -/
def lastOn (p : Path) (cs : List Change) : Option Change :=
  (cs.filter fun c => c.path = p).getLast?

/-- What a path shows after its last change, or if there is none. -/
def Shows (d d' : Disk) (cwd : Location) (p : Path) : Option Change → Prop
  | some (.written _ body) => d'.Holds cwd p (fileBytes headerLine body terminatorLine)
  | some (.deleted _) => d'.Absent cwd p
  | none => d'.lookup cwd p = d.lookup cwd p

theorem lastOn_append_self (cs : List Change) (c : Change) :
    lastOn c.path (cs ++ [c]) = some c := by
  simp [lastOn]

theorem lastOn_append_of_ne {p : Path} (cs : List Change) {c : Change} (h : c.path ≠ p) :
    lastOn p (cs ++ [c]) = lastOn p cs := by
  simp [lastOn, h]

theorem Shows.congr {d d' d'' : Disk} {cwd : Location} {p : Path} {c : Option Change}
    (h : Shows d d' cwd p c) (hl : d''.lookup cwd p = d'.lookup cwd p) : Shows d d'' cwd p c := by
  rcases c with _ | ⟨path, body⟩ | path
  · exact hl.trans h
  · unfold Shows Disk.Holds at h ⊢
    rw [hl]
    exact h
  · exact hl.trans h

/-! ### What a disk has of the changes -/

/-- The disk `d'` is what the changes have made of `d`. -/
structure Reflects (d : Disk) (cwd : Location) (ps : List Path) (cs : List Change)
    (d' : Disk) : Prop where
  room : d'.room = d.room
  tree : d.SameTree d'
  writable : ∀ l, d.Writable l → d'.Writable l
  shows : ∀ p ∈ ps, Shows d d' cwd p (lastOn p cs)
  elsewhere : ∀ l, (∀ c ∈ cs, ¬d.NamesFile cwd c.path l) → d'.get l = d.get l

variable {d d' d'' : Disk} {cwd : Location} {ps : List Path} {cs : List Change}

theorem Reflects.start (d : Disk) (cwd : Location) (ps : List Path) :
    Reflects d cwd ps [] d where
  room := rfl
  tree := .refl d
  writable := fun _ h => h
  shows := fun _ _ => rfl
  elsewhere := fun _ _ => rfl

/-- **One more change.** What happens at the place of one path is not seen at the others. -/
theorem Reflects.change (hplain : d.PlainPaths cwd ps) (h : Reflects d cwd ps cs d')
    {c : Change} {loc : Location} (hc : c.path ∈ ps) (hloc : d.NamesFile cwd c.path loc)
    (hoff : Disk.AgreeOff loc d' d'') (hroom : d''.room = d'.room)
    (hfree : d''.FileOrFree loc) (hwritable : d'.Writable loc → d''.Writable loc)
    (hshows : Shows d d'' cwd c.path (some c)) : Reflects d cwd ps (cs ++ [c]) d'' where
  room := hroom.trans h.room
  tree := h.tree.trans (Disk.sameTree_of_agreeOff hoff (h.tree.fileOrFree hloc.fileOrFree) hfree)
  writable := by
    intro l hl
    by_cases heq : l = loc
    · exact heq ▸ hwritable (h.writable loc (heq ▸ hl))
    · unfold Disk.Writable
      rw [hoff l heq]
      exact h.writable l hl
  shows := by
    intro p hp
    by_cases heq : c.path = p
    · rw [← heq, lastOn_append_self]
      exact hshows
    rw [lastOn_append_of_ne cs heq]
    refine (h.shows p hp).congr ?_
    -- another path has another place, where nothing has changed
    obtain ⟨loc', hloc'⟩ := hplain.named p hp
    have hne : loc' ≠ loc := by
      rintro rfl
      exact heq (hplain.apart _ hc p hp loc' hloc hloc')
    have htree : d.SameTree d'' :=
      h.tree.trans (Disk.sameTree_of_agreeOff hoff (h.tree.fileOrFree hloc.fileOrFree) hfree)
    rw [(hloc'.again htree).lookup_eq, (hloc'.again h.tree).lookup_eq, hoff loc' hne]
  elsewhere := by
    intro l hl
    have hne : l ≠ loc := by
      rintro rfl
      exact hl c (by simp) hloc
    rw [hoff l hne]
    exact h.elsewhere l fun c' hc' => hl c' (List.mem_append_left _ hc')

theorem Reflects.removeFile (hplain : d.PlainPaths cwd ps) (h : Reflects d cwd ps cs d')
    {p : Path} (hp : p ∈ ps) :
    Reflects d cwd ps (cs ++ [.deleted p]) (d'.removeFile cwd p).2 := by
  obtain ⟨loc, hloc⟩ := hplain.named p hp
  have hloc' := hloc.again h.tree
  -- the place is free, before as well if there was nothing to delete
  have hkey : Disk.AgreeOff loc d' (d'.removeFile cwd p).2 ∧
      (d'.removeFile cwd p).2.room = d'.room ∧ (d'.removeFile cwd p).2.get loc = none := by
    rw [hloc'.removeFile_eq]
    cases hg : d'.get loc with
    | none => exact ⟨fun _ _ => rfl, rfl, hg⟩
    | some e =>
      exact ⟨fun l hl => d'.get_erase_of_ne hl, rfl, d'.get_erase_self hloc.ne_nil⟩
  obtain ⟨hoff, hroom, hnone⟩ := hkey
  have hfree : (d'.removeFile cwd p).2.FileOrFree loc := by
    intro e he
    rw [hnone] at he
    cases he
  refine h.change hplain hp hloc hoff hroom hfree (fun _ content mode hf => ?_) ?_
  · rw [hnone] at hf
    cases hf
  · have htree := Disk.sameTree_of_agreeOff hoff (h.tree.fileOrFree hloc.fileOrFree) hfree
    exact (hloc'.again htree).absent_iff.mpr hnone

/-- Creating a file is a change if the path opens, and none otherwise. It opens unless a
file is there that may not be written. -/
theorem Reflects.create {α : Type} (hplain : d.PlainPaths cwd ps) (h : Reflects d cwd ps cs d')
    {p : Path} (hp : p ∈ ps) {feed : LineFeed α}
    (hroom : d.HasRoom (fileBytes headerLine feed.lines terminatorLine).length) :
    (∃ e, (Scratch.create p feed cwd d').result = .error (.corpusWrite p e) ∧
      (Scratch.create p feed cwd d').disk = d' ∧ ∃ loc, d.NamesFile cwd p loc ∧ ¬d.Writable loc) ∨
    (Scratch.create p feed cwd d').result = .ok ⟨p⟩ ∧
      Reflects d cwd ps (cs ++ [.written p feed.lines]) (Scratch.create p feed cwd d').disk := by
  obtain ⟨loc, hloc⟩ := hplain.named p hp
  have hloc' := hloc.again h.tree
  cases hopen : d'.openForWriting cwd p with
  | error e =>
    rw [create_of_closed hopen]
    refine .inl ⟨e, rfl, rfl, loc, hloc, fun hw => ?_⟩
    obtain ⟨d₁, hok⟩ := hloc'.opens (h.writable loc hw)
    rw [hopen] at hok
    cases hok
  | ok opened =>
    obtain ⟨loc', d₁⟩ := opened
    have hroom' : d'.HasRoom (fileBytes headerLine feed.lines terminatorLine).length := by
      unfold Disk.HasRoom
      rw [h.room]
      exact hroom
    obtain ⟨d₂, mode, hput, hget, hmode, hoff, hroom₂⟩ := hloc'.putFile_eq hopen hroom'
    obtain ⟨hresult, hdisk⟩ := create_of_putFile hput
    have hfree : d₂.FileOrFree loc := by
      intro e he
      exact ⟨_, mode, Option.some.inj (he.symm.trans hget)⟩
    rw [hdisk]
    refine .inr ⟨hresult, h.change hplain hp hloc hoff hroom₂ hfree (fun _ content mode' hf => ?_)
      ?_⟩
    · obtain ⟨-, rfl⟩ := Entry.file.inj (Option.some.inj (hget.symm.trans hf))
      exact hmode
    · have htree := Disk.sameTree_of_agreeOff hoff (h.tree.fileOrFree hloc.fileOrFree) hfree
      exact (hloc'.again htree).holds_iff.mpr ⟨mode, hget⟩

/-! ### Owners -/

theorem mem_of_lookup {owners : Owners} {name : String} {o : Scratch}
    (h : owners.lookup name = some o) : (name, o) ∈ owners := by
  obtain ⟨l₁, l₂, rfl, -⟩ := List.lookup_eq_some_iff.mp h
  exact List.mem_append_right l₁ (List.mem_cons_self ..)

theorem lookup_without_of_ne (owners : Owners) {name name' : String} (h : name' ≠ name) :
    (owners.without name).lookup name' = owners.lookup name' := by
  rw [Owners.without, Disk.lookup_filter_ne, if_neg h]

theorem lookup_without_self (owners : Owners) (name : String) :
    (owners.without name).lookup name = none := by
  rw [Owners.without, Disk.lookup_filter_ne, if_pos rfl]

/-- The name that an event is about. -/
def Event.name : Event → String
  | .create name _ _ => name
  | .remove name => name
  | .keep name => name
  | .drop name => name

/-- Whether the event gives its name to a new owner. -/
def Event.isCreate : Event → Bool
  | .create .. => true
  | _ => false

section Steps

variable {s : Session} {name : String} {o : Scratch}

theorem remove_of_lookup (h : s.owners.lookup name = some o) : s.remove cwd name =
    (some (o.path, .ofResult (s.disk.removeFile cwd o.path).1),
      ⟨(s.disk.removeFile cwd o.path).2, s.owners.without name⟩) := by
  unfold remove guard?
  rw [h]
  simp only [Option.map_some, Guard.remove_eq]
  rfl

theorem keep_of_lookup (h : s.owners.lookup name = some o) :
    s.keep cwd name = (some o.path, ⟨s.disk, s.owners.without name⟩) := by
  unfold keep guard?
  rw [h]
  simp only [Option.map_some, Guard.keep_eq]

theorem drop_of_lookup (h : s.owners.lookup name = some o) :
    s.drop cwd name = (true, ⟨(s.disk.removeFile cwd o.path).2, s.owners.without name⟩) := by
  unfold drop guard?
  rw [h]
  simp only [Option.map_some, Guard.finish_armed]
  rfl

theorem step_of_ownerless {e : Event} (h : s.owners.lookup e.name = none)
    (he : e.isCreate = false) : (s.step cwd e).2 = s ∧ s.changes cwd e = [] := by
  cases e with
  | create => cases he
  | remove name =>
    have h' : s.owners.lookup name = none := h
    simp only [step, remove, guard?, changes, h', Option.map_none, Option.toList_none, and_self]
  | keep name =>
    have h' : s.owners.lookup name = none := h
    simp only [step, keep, guard?, changes, h', Option.map_none, and_self]
  | drop name =>
    have h' : s.owners.lookup name = none := h
    simp only [step, drop, guard?, changes, h', Option.map_none, Option.toList_none, and_self]

/-- With an owner of its name, an event that makes none takes the owner away, and the file
with it, or leaves the file. -/
theorem step_of_owner {e : Event} (h : s.owners.lookup e.name = some o)
    (he : e.isCreate = false) :
    (s.step cwd e).2.owners = s.owners.without e.name ∧
      ((s.step cwd e).2.disk = s.disk ∧ s.changes cwd e = [] ∨
        (s.step cwd e).2.disk = (s.disk.removeFile cwd o.path).2 ∧
          s.changes cwd e = [.deleted o.path]) := by
  cases e with
  | create => cases he
  | remove name =>
    have h' : s.owners.lookup name = some o := h
    have hchanges : s.changes cwd (.remove name) = [.deleted o.path] := by
      rw [changes, h']
      rfl
    rw [step_remove, remove_of_lookup h']
    exact ⟨rfl, .inr ⟨rfl, hchanges⟩⟩
  | keep name =>
    have h' : s.owners.lookup name = some o := h
    rw [step_keep, keep_of_lookup h']
    exact ⟨rfl, .inl ⟨rfl, rfl⟩⟩
  | drop name =>
    have h' : s.owners.lookup name = some o := h
    have hchanges : s.changes cwd (.drop name) = [.deleted o.path] := by
      rw [changes, h']
      rfl
    rw [step_drop, drop_of_lookup h']
    exact ⟨rfl, .inr ⟨rfl, hchanges⟩⟩

theorem create_of_error {path : Path} {body : List Text} {f : Failure}
    (h : (Scratch.create path (.ofList body) cwd s.disk).result = .error f) :
    s.create cwd name path (.ofList body) =
      (.error f, { s with disk := (Scratch.create path (.ofList body) cwd s.disk).disk }) := by
  unfold create
  simp only [h]

theorem create_of_ok {path : Path} {body : List Text} {d₁ : Disk}
    (h : (Scratch.create path (.ofList body) cwd s.disk).result = .ok o)
    (hd₁ : (Scratch.create path (.ofList body) cwd s.disk).disk = d₁) :
    s.create cwd name path (.ofList body) = (.ok o.path,
      ⟨match s.owners.lookup name with
        | some old => (d₁.removeFile cwd old.path).2
        | none => d₁, (name, o) :: s.owners.without name⟩) := by
  unfold create Owners.adopt
  simp only [h, hd₁]
  rfl

theorem changes_of_error {path : Path} {body : List Text} {f : Failure}
    (h : (Scratch.create path (.ofList body) cwd s.disk).result = .error f) :
    s.changes cwd (.create name path body) = [] := by
  simp only [changes, create_of_error h]

theorem changes_of_ok {path q : Path} {body : List Text}
    (h : (s.create cwd name path (.ofList body)).1 = .ok q) :
    s.changes cwd (.create name path body) =
      .written path body :: ((s.owners.lookup name).map fun o => .deleted o.path).toList := by
  simp only [changes, h]

theorem owners_of_ok {path q : Path} {body : List Text}
    (h : (s.create cwd name path (.ofList body)).1 = .ok q) :
    (s.create cwd name path (.ofList body)).2.owners = (name, ⟨q⟩) :: s.owners.without name := by
  cases hr : (Scratch.create path (.ofList body) cwd s.disk).result with
  | error f =>
    rw [create_of_error hr] at h
    cases h
  | ok o =>
    rw [create_of_ok hr rfl] at h ⊢
    rw [← Except.ok.inj h]

theorem lookup_step_of_ne {e : Event} (h : name ≠ e.name) :
    (s.step cwd e).2.owners.lookup name = s.owners.lookup name := by
  by_cases he : e.isCreate = false
  · cases hl : s.owners.lookup e.name with
    | none => rw [(step_of_ownerless hl he).1]
    | some o => rw [(step_of_owner hl he).1, lookup_without_of_ne s.owners h]
  cases e with
  | create name' path body =>
    have hne : (name == name') = false := beq_eq_false_iff_ne.mpr h
    rw [step_create]
    cases hr : (Scratch.create path (.ofList body) cwd s.disk).result with
    | error f => rw [create_of_error hr]
    | ok o =>
      rw [create_of_ok hr rfl]
      simp only [List.lookup_cons, hne]
      exact lookup_without_of_ne s.owners h
  | remove | keep | drop => exact absurd rfl he

theorem lookup_step_self {e : Event} (he : e.isCreate = false) :
    (s.step cwd e).2.owners.lookup e.name = none := by
  cases hl : s.owners.lookup e.name with
  | none => rw [(step_of_ownerless hl he).1, hl]
  | some o => rw [(step_of_owner hl he).1, lookup_without_self]

/-- **A name without an owner does nothing** until it is given to a new one: without the
events of the name the run is the same. -/
theorem run_of_ownerless : ∀ (events : List Event) {s : Session},
    s.owners.lookup name = none → (∀ e ∈ events, e.name = name → e.isCreate = false) →
    run cwd s events = run cwd s (events.filter fun e => e.name ≠ name)
  | [], _, _, _ => rfl
  | e :: events, s, h, hall => by
    have ih : ∀ {s : Session}, s.owners.lookup name = none →
        run cwd s events = run cwd s (events.filter fun e => e.name ≠ name) :=
      fun hs => run_of_ownerless events hs fun e' he' => hall e' (List.mem_cons_of_mem _ he')
    show run cwd (s.step cwd e).2 events = _
    by_cases hname : e.name = name
    · rw [(step_of_ownerless (hname ▸ h) (hall e (List.mem_cons_self ..) hname)).1, ih h,
        List.filter_cons_of_neg (by simpa using hname)]
    · rw [List.filter_cons_of_pos (by simpa using hname)]
      exact ih ((lookup_step_of_ne (Ne.symm hname)).trans h)

end Steps

/-! ### Runs -/

/-- The owners are owners of the paths. -/
def OwnersAmong (ps : List Path) (s : Session) : Prop :=
  ∀ o ∈ s.owners, o.2.path ∈ ps

/-- The event is about one of the paths, and there is room for what it writes. -/
def Allowed (d : Disk) (ps : List Path) : Event → Prop
  | .create _ path body =>
    path ∈ ps ∧ d.HasRoom (fileBytes headerLine body terminatorLine).length
  | _ => True

/-- **One event.** -/
theorem step_reflects (hplain : d.PlainPaths cwd ps) {s : Session}
    (h : Reflects d cwd ps cs s.disk) (ho : s.OwnersAmong ps) {e : Event}
    (he : Allowed d ps e) :
    Reflects d cwd ps (cs ++ s.changes cwd e) (s.step cwd e).2.disk ∧
      (s.step cwd e).2.OwnersAmong ps := by
  by_cases hmakes : e.isCreate = false
  · cases hl : s.owners.lookup e.name with
    | none =>
      obtain ⟨hstep, hchanges⟩ := @step_of_ownerless cwd s e hl hmakes
      rw [hstep, hchanges, List.append_nil]
      exact ⟨h, ho⟩
    | some o =>
      obtain ⟨howners, hends⟩ := @step_of_owner cwd s o e hl hmakes
      have ho' : (s.step cwd e).2.OwnersAmong ps := by
        unfold OwnersAmong
        rw [howners]
        exact fun o' hmem => ho o' (List.mem_filter.mp hmem).1
      rcases hends with ⟨hdisk, hchanges⟩ | ⟨hdisk, hchanges⟩
      · rw [hdisk, hchanges, List.append_nil]
        exact ⟨h, ho'⟩
      · rw [hdisk, hchanges]
        exact ⟨h.removeFile hplain (ho _ (mem_of_lookup hl)), ho'⟩
  cases e with
  | create name path body =>
    obtain ⟨hp, hroom⟩ := he
    rw [← LineFeed.lines_ofList body] at hroom
    rw [step_create]
    rcases h.create hplain hp hroom with ⟨e, hresult, hdisk, -⟩ | ⟨hresult, hwritten⟩
    · rw [create_of_error hresult, changes_of_error hresult, hdisk, List.append_nil]
      exact ⟨h, ho⟩
    have howners : ∀ d₁, OwnersAmong ps ⟨d₁, (name, ⟨path⟩) :: s.owners.without name⟩ := by
      intro d₁ o hmem
      rcases List.mem_cons.mp hmem with rfl | hmem
      · exact hp
      · exact ho o (List.mem_filter.mp hmem).1
    rw [LineFeed.lines_ofList] at hwritten
    rw [changes_of_ok (congrArg Prod.fst (create_of_ok hresult rfl)), create_of_ok hresult rfl]
    refine ⟨?_, howners _⟩
    -- the owner that had the name ends after the file has been written
    cases hl : s.owners.lookup name with
    | none => exact hwritten
    | some old =>
      have hdeleted := hwritten.removeFile hplain (ho _ (mem_of_lookup hl))
      rw [List.append_assoc] at hdeleted
      exact hdeleted
  | remove | keep | drop => exact absurd rfl hmakes

/-- **A run** is what its changes make of the disk. -/
theorem run_reflects (hplain : d.PlainPaths cwd ps) : ∀ (events : List Event)
    {cs : List Change} {s : Session}, Reflects d cwd ps cs s.disk → s.OwnersAmong ps →
    (∀ e ∈ events, Allowed d ps e) →
    Reflects d cwd ps (cs ++ history cwd s events) (run cwd s events).disk ∧
      (run cwd s events).OwnersAmong ps
  | [], cs, s, h, ho, _ => by
    rw [history, List.append_nil]
    exact ⟨h, ho⟩
  | e :: events, cs, s, h, ho, hall => by
    obtain ⟨h', ho'⟩ := step_reflects hplain h ho (hall e (List.mem_cons_self ..))
    rw [history, ← List.append_assoc]
    exact run_reflects hplain events h' ho' fun e' he' => hall e' (List.mem_cons_of_mem _ he')

/-- A point of a run on the disk `d`: the session `s` after some events. -/
structure Point (d : Disk) (cwd : Location) (ps : List Path) (events : List Event)
    (s : Session) : Prop where
  /-- Every path shows the last change that was made to it. -/
  shows : ∀ p ∈ ps, Shows d s.disk cwd p (lastOn p (history cwd ⟨d, []⟩ events))
  /-- Where no change was made, the disk is as it was. -/
  elsewhere : ∀ l, (∀ c ∈ history cwd ⟨d, []⟩ events, ¬d.NamesFile cwd c.path l) →
    s.disk.get l = d.get l
  /-- So whatever leads there, leads there still. -/
  untouched : ∀ q l e, d.lookup cwd q = .ok (l, e) →
    (∀ c ∈ history cwd ⟨d, []⟩ events, ¬d.NamesFile cwd c.path l) →
    s.disk.lookup cwd q = .ok (l, e)
  /-- A file is created, unless one was there that may not be written; nothing is done
  then. -/
  creates : ∀ name path body, Allowed d ps (.create name path body) →
    (s.create cwd name path (.ofList body)).1 = .ok path ∨
    ∃ e, s.create cwd name path (.ofList body) = (.error (.corpusWrite path e), s) ∧
      ∃ loc, d.NamesFile cwd path loc ∧ ¬d.Writable loc
  /-- A removal says whether there was something to delete. -/
  removes : ∀ name o, s.owners.lookup name = some o →
    ((s.remove cwd name).1 = some (o.path, .deleted) ∧
      ∃ l e, s.disk.lookup cwd o.path = .ok (l, e)) ∨
    ((s.remove cwd name).1 = some (o.path, .notFound) ∧ s.disk.Absent cwd o.path)
  /-- Keeping a file leaves the disk as it is. -/
  keeps : ∀ name, (s.step cwd (.keep name)).2.disk = s.disk
  /-- Once its owner is removed, kept or dropped, a name does nothing until it is given to
  another one. -/
  ended : ∀ e later, e.isCreate = false →
    (∀ e' ∈ later, e'.name = e.name → e'.isCreate = false) →
    run cwd (s.step cwd e).2 later =
      run cwd (s.step cwd e).2 (later.filter fun e' => e'.name ≠ e.name)

theorem Point.ofReflects (hplain : d.PlainPaths cwd ps) {events : List Event} {s : Session}
    (h : Reflects d cwd ps (history cwd ⟨d, []⟩ events) s.disk) (ho : s.OwnersAmong ps) :
    Point d cwd ps events s where
  shows := h.shows
  elsewhere := h.elsewhere
  untouched := fun _ l _ hlookup hl => Disk.lookup_sameTree h.tree hlookup (h.elsewhere l hl)
  creates := by
    intro name path body hallowed
    obtain ⟨hp, hroom⟩ := hallowed
    rw [← LineFeed.lines_ofList body] at hroom
    rcases h.create hplain hp hroom with ⟨e, hresult, hdisk, hloc⟩ | ⟨hresult, -⟩
    · refine .inr ⟨e, ?_, hloc⟩
      rw [create_of_error hresult, hdisk]
    · rw [create_of_ok hresult rfl]
      exact .inl rfl
  removes := by
    intro name o hl
    obtain ⟨loc, hloc⟩ := hplain.named _ (ho _ (mem_of_lookup hl))
    have hloc' := hloc.again h.tree
    rw [remove_of_lookup hl, hloc'.removeFile_eq]
    cases hg : s.disk.get loc with
    | none => exact .inr ⟨rfl, hloc'.absent_iff.mpr hg⟩
    | some e =>
      refine .inl ⟨rfl, loc, e, ?_⟩
      rw [hloc'.lookup_eq, hg]
  keeps := by
    intro name
    cases hl : s.owners.lookup name with
    | none => rw [(step_of_ownerless (e := .keep name) hl rfl).1]
    | some o =>
      rw [step_keep, keep_of_lookup hl]
  ended := fun _ later he hlater => run_of_ownerless later (lookup_step_self he) hlater

/-- **A path shows what was last done to it,** at every point of every run of events. -/
theorem last_change_shows {d : Disk} {cwd : Location} {ps : List Path} {events : List Event}
    (hplain : d.PlainPaths cwd ps) (hall : ∀ e ∈ events, Allowed d ps e) :
    ∀ before after, events = before ++ after →
      Point d cwd ps before (run cwd ⟨d, []⟩ before) := by
  rintro before after rfl
  have hnone : OwnersAmong ps ⟨d, []⟩ := fun _ h => by cases h
  obtain ⟨h, ho⟩ := run_reflects hplain before (.start d cwd ps) hnone
    fun e he => hall e (List.mem_append_left after he)
  exact .ofReflects hplain h ho

/-- A disk with a file `g`. -/
def oneFile : Disk where
  entries := [([[0x67]], .file [0x21] Mode.ofFile)]

/-- Two owners of `f`: the second writes over the file of the first, which deletes it. -/
def twoOwners : List Event :=
  [.create "a" [0x66] [['x']], .create "b" [0x66] [], .drop "a"]

theorem namesFile_oneFile : oneFile.NamesFile [] [0x66] [[0x66]] := by
  have hfree : oneFile.FileOrFree [[0x66]] := fun e he => by cases he
  have hf : Disk.IsPlain [0x66] := ⟨by decide, by decide, by decide⟩
  exact ⟨hfree, rfl, [], [0x66], rfl,
    Disk.resolve_last ⟨rfl, rfl, by decide⟩ rfl hf rfl hfree.ne_link⟩

theorem plainPaths_oneFile : oneFile.PlainPaths [] [[0x66]] where
  named := by
    intro p hp
    rw [List.mem_singleton.mp hp]
    exact ⟨_, namesFile_oneFile⟩
  apart := by
    intro p hp q hq _ _ _
    rw [List.mem_singleton.mp hp, List.mem_singleton.mp hq]

/-- The path shows the second file, then nothing; the other file stays. -/
theorem twoOwners_shows :
    oneFile.PlainPaths [] [[0x66]] ∧ (∀ e ∈ twoOwners, Allowed oneFile [[0x66]] e) ∧
      (run [] ⟨oneFile, []⟩ (twoOwners.take 2)).disk.Holds [] [0x66]
        (fileBytes headerLine [] terminatorLine) ∧
      (run [] ⟨oneFile, []⟩ twoOwners).disk.Absent [] [0x66] ∧
      (run [] ⟨oneFile, []⟩ twoOwners).disk.get [[0x67]] = some (.file [0x21] Mode.ofFile) := by
  have hall : ∀ e ∈ twoOwners, Allowed oneFile [[0x66]] e := by
    have hroom : ∀ n, oneFile.HasRoom n := fun n r hr => by cases hr
    intro e he
    simp only [twoOwners, List.mem_cons, List.not_mem_nil, or_false] at he
    rcases he with rfl | rfl | rfl
    · exact ⟨List.mem_singleton.mpr rfl, hroom _⟩
    · exact ⟨List.mem_singleton.mpr rfl, hroom _⟩
    · trivial
  have hpoint := last_change_shows plainPaths_oneFile hall
  -- both creations succeed, as there was no file at the start
  have hcreate : ∀ before {after name body},
      twoOwners = before ++ .create name [0x66] body :: after →
      ((run [] ⟨oneFile, []⟩ before).create [] name [0x66] (.ofList body)).1 = .ok [0x66] := by
    intro before after name body heq
    have hmem : Event.create name [0x66] body ∈ twoOwners := by
      rw [heq]
      exact List.mem_append_right before (List.mem_cons_self ..)
    rcases (hpoint before _ heq).creates name [0x66] body (hall _ hmem) with h | ⟨-, -, _, hloc, hw⟩
    · exact h
    · refine absurd (fun content mode hf => ?_) hw
      rw [hloc.unique namesFile_oneFile] at hf
      cases hf
  have hfirst := hcreate [] rfl
  have hsecond := hcreate [.create "a" [0x66] [['x']]] rfl
  have howners : (run [] ⟨oneFile, []⟩ [.create "a" [0x66] [['x']]]).owners =
      [("a", ⟨[0x66]⟩)] := owners_of_ok hfirst
  have hboth := owners_of_ok hsecond
  have hchanges := changes_of_ok hsecond
  rw [howners] at hboth hchanges
  have htwo : history [] ⟨oneFile, []⟩ (twoOwners.take 2) =
      [.written [0x66] [['x']], .written [0x66] []] := by
    show changes [] (run [] ⟨oneFile, []⟩ []) _ ++
      (changes [] (run [] ⟨oneFile, []⟩ [.create "a" [0x66] [['x']]]) _ ++ []) = _
    rw [changes_of_ok hfirst, hchanges]
    rfl
  have hdrop : changes [] (run [] ⟨oneFile, []⟩ (twoOwners.take 2)) (.drop "a") =
      [.deleted [0x66]] := by
    have hlookup : (run [] ⟨oneFile, []⟩ (twoOwners.take 2)).owners.lookup "a" =
        some ⟨[0x66]⟩ := (congrArg (List.lookup "a") hboth).trans rfl
    rw [changes, hlookup]
    rfl
  have hthree : history [] ⟨oneFile, []⟩ twoOwners =
      [.written [0x66] [['x']], .written [0x66] [], .deleted [0x66]] := by
    show changes [] (run [] ⟨oneFile, []⟩ []) _ ++
      (changes [] (run [] ⟨oneFile, []⟩ [.create "a" [0x66] [['x']]]) _ ++
        (changes [] (run [] ⟨oneFile, []⟩ (twoOwners.take 2)) _ ++ [])) = _
    rw [changes_of_ok hfirst, hchanges, hdrop]
    rfl
  refine ⟨plainPaths_oneFile, hall, ?_, ?_, ?_⟩
  · have h := (hpoint (twoOwners.take 2) _ rfl).shows [0x66] (List.mem_singleton.mpr rfl)
    rw [htwo] at h
    exact h
  · have h := (hpoint twoOwners [] rfl).shows [0x66] (List.mem_singleton.mpr rfl)
    rw [hthree] at h
    exact h
  · refine (hpoint twoOwners [] rfl).elsewhere _ fun c hc hloc => ?_
    have hpath : c.path = [0x66] := by
      rw [hthree] at hc
      simp only [List.mem_cons, List.not_mem_nil, or_false] at hc
      rcases hc with rfl | rfl | rfl <;> rfl
    rw [hpath] at hloc
    exact absurd (hloc.unique namesFile_oneFile) (by decide)

end Session
end Scratch
end StressBench
