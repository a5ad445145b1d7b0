/-
# Walks look at directories and links only

A walk goes through links and through directories that may be passed. So it ends at the
same place on every disk that has the same of these, also where files were made and removed.
A link at its end is the one thing that depends on what the walk is for.

Key definitions: `Disk.AgreeOff`, `Disk.FileOrFree`, `Disk.SameTree`, `Disk.SameWays`,
`Disk.IsPlain`, `Disk.Arrives`, `Disk.found`.
Key theorems: `Disk.walk_eq_ok_iff`, `Disk.walk_sameWays`, `Disk.resolve_sameWays`,
`Disk.resolve_sameTree`, `Disk.lookup_sameTree`.
-/
import StressBench.Disk.Resolve

namespace StressBench
namespace Disk

/-! ### Disks that differ at one location -/

/-- The two disks have the same entries, but perhaps at `loc`. -/
def AgreeOff (loc : Location) (d d' : Disk) : Prop :=
  ∀ l, l ≠ loc → d'.get l = d.get l

theorem agreeOff_put (d : Disk) (loc : Location) (e : Entry) : AgreeOff loc d (d.put loc e) :=
  fun _ hl => d.get_put_of_ne e hl

theorem AgreeOff.trans {loc : Location} {d₁ d₂ d₃ : Disk} (h : AgreeOff loc d₁ d₂)
    (h' : AgreeOff loc d₂ d₃) : AgreeOff loc d₁ d₃ :=
  fun l hl => (h' l hl).trans (h l hl)

/-- A file sits at the location, or nothing. -/
def FileOrFree (d : Disk) (loc : Location) : Prop :=
  ∀ e, d.get loc = some e → ∃ content mode, e = .file content mode

theorem FileOrFree.ne_link {d : Disk} {l : Location} (h : d.FileOrFree l) (target : Path) :
    d.get l ≠ some (.link target) := by
  intro hl
  obtain ⟨content, mode, hf⟩ := h _ hl
  cases hf

/-! ### Disks that differ in files only -/

/-- The disks have the same directories, links and devices: where they differ, both
have a file or nothing. -/
def SameTree (d d' : Disk) : Prop :=
  ∀ l, d'.get l = d.get l ∨ d.FileOrFree l ∧ d'.FileOrFree l

theorem SameTree.refl (d : Disk) : SameTree d d :=
  fun _ => .inl rfl

theorem fileOrFree_congr {d d' : Disk} {l : Location} (h : d'.get l = d.get l) :
    d'.FileOrFree l ↔ d.FileOrFree l := by
  unfold FileOrFree
  rw [h]

theorem SameTree.fileOrFree {d d' : Disk} (h : SameTree d d') {l : Location}
    (hl : d.FileOrFree l) : d'.FileOrFree l := by
  rcases h l with heq | ⟨-, hl'⟩
  · exact (fileOrFree_congr heq).mpr hl
  · exact hl'

theorem SameTree.trans {d d' d'' : Disk} (h : SameTree d d') (h' : SameTree d' d'') :
    SameTree d d'' := by
  intro l
  rcases h l with heq | ⟨hl, hl'⟩
  · rcases h' l with heq' | ⟨hm, hm'⟩
    · exact .inl (heq'.trans heq)
    · exact .inr ⟨(fileOrFree_congr heq).mp hm, hm'⟩
  · exact .inr ⟨hl, h'.fileOrFree hl'⟩

theorem SameTree.get_eq {d d' : Disk} (h : SameTree d d') {l : Location} {e : Entry}
    (he : d.get l = some e) (hne : ∀ content mode, e ≠ .file content mode) :
    d'.get l = some e := by
  rcases h l with heq | ⟨hl, -⟩
  · exact heq.trans he
  · obtain ⟨content, mode, hf⟩ := hl e he
    exact absurd hf (hne content mode)

theorem SameTree.modeAt_eq {d d' : Disk} (h : SameTree d d') (l : Location) :
    d'.modeAt l = d.modeAt l := by
  have hfree : ∀ {d : Disk}, d.FileOrFree l → d.modeAt l = Mode.ofDirectory := by
    intro d hl
    unfold modeAt
    cases hget : d.get l with
    | none => rfl
    | some e =>
      obtain ⟨content, mode, rfl⟩ := hl e hget
      rfl
  rcases h l with heq | ⟨hl, hl'⟩
  · exact modeAt_congr heq
  · rw [hfree hl, hfree hl']

theorem SameTree.mayChange_eq {d d' : Disk} (h : SameTree d d') (l : Location) :
    d'.mayChange l = d.mayChange l := by
  rw [mayChange, mayChange, h.modeAt_eq]

theorem sameTree_of_agreeOff {d d' : Disk} {loc : Location} (hoff : AgreeOff loc d d')
    (h : d.FileOrFree loc) (h' : d'.FileOrFree loc) : SameTree d d' := by
  intro l
  by_cases hl : l = loc
  · rw [hl]
    exact .inr ⟨h, h'⟩
  · exact .inl (hoff l hl)

/-! ### Disks with the same ways -/

/-- The disks have the same links, and the first disk's directories are still there and may
be passed through: what a walk looks at. -/
structure SameWays (d d' : Disk) : Prop where
  directory : ∀ {l mode}, d.get l = some (.directory mode) → d'.get l = some (.directory mode)
  search : ∀ {l}, d.maySearch l = true → d'.maySearch l = true
  link_iff : ∀ {l target}, d'.get l = some (.link target) ↔ d.get l = some (.link target)

theorem SameWays.ne_link {d d' : Disk} (h : SameWays d d') {l : Location}
    (hl : ∀ target, d.get l ≠ some (.link target)) (target : Path) :
    d'.get l ≠ some (.link target) :=
  fun h' => hl target (h.link_iff.mp h')

theorem SameTree.sameWays {d d' : Disk} (h : SameTree d d') : SameWays d d' where
  directory hl := h.get_eq hl nofun
  search {l} hl := by rwa [maySearch, h.modeAt_eq l]
  link_iff {l target} := by
    refine ⟨fun hl => ?_, fun hl => h.get_eq hl nofun⟩
    rcases h l with heq | ⟨-, hfree⟩
    · exact heq.symm.trans hl
    · exact absurd hl (hfree.ne_link target)

theorem AgreeOff.maySearch_eq {d d' : Disk} {loc l : Location} (h : AgreeOff loc d d')
    (hl : l ≠ loc) : d'.maySearch l = d.maySearch l := by
  rw [maySearch, maySearch, modeAt_congr (h l hl)]

/-- Where nothing is, nothing is in the way of a search. -/
theorem search_of_agreeOff {d d' : Disk} {loc : Location} (hoff : AgreeOff loc d d')
    (hgone : d'.get loc = none) {l : Location} (hl : d.maySearch l = true) :
    d'.maySearch l = true := by
  by_cases hloc : l = loc
  · rw [hloc, maySearch, modeAt, hgone]
    rfl
  · rwa [hoff.maySearch_eq hloc]

/-- Something that is neither a directory nor a link is gone: the ways are the same. -/
theorem sameWays_of_gone {d d' : Disk} {loc : Location} (hoff : AgreeOff loc d d')
    (hgone : d'.get loc = none) (hdir : ∀ mode, d.get loc ≠ some (.directory mode))
    (hlink : ∀ target, d.get loc ≠ some (.link target)) : SameWays d d' where
  directory {l mode} hl := by
    by_cases hloc : l = loc
    · exact absurd (hloc ▸ hl) (hdir mode)
    · exact (hoff l hloc).trans hl
  search := search_of_agreeOff hoff hgone
  link_iff {l target} := by
    by_cases hloc : l = loc
    · rw [hloc, hgone]
      exact ⟨nofun, fun hl => absurd hl (hlink target)⟩
    · rw [hoff l hloc]

/-! ### Walks -/

/-- The name is looked up in its directory: it is neither `.` nor `..` and not too
long. -/
def IsPlain (n : Name) : Prop :=
  n ≠ Path.here ∧ n ≠ Path.above ∧ n.length ≤ nameMax

section Walk

variable {d : Disk} {follow : Follow} {links : Nat} {loc : Location} {n : Name}
  {rest : List Name} {slash : Bool}

theorem walk_here (hs : d.maySearch loc = true) :
    walk d follow links loc (Path.here :: rest) slash = walk d follow links loc rest slash := by
  rw [walk, if_neg (by simp [hs]), if_pos rfl]

theorem walk_above (hs : d.maySearch loc = true) :
    walk d follow links loc (Path.above :: rest) slash =
      walk d follow links loc.tail rest slash := by
  rw [walk, if_neg (by simp [hs]), if_neg (by decide), if_pos rfl]

theorem walk_link {target : Path} (hs : d.maySearch loc = true) (hn : IsPlain n)
    (h : d.get (n :: loc) = some (.link target))
    (hf : (!rest.isEmpty || followsLast follow slash) = true) :
    walk d follow (links + 1) loc (n :: rest) slash =
      walk d follow links (startOf loc target) (target.names ++ rest)
        (if rest.isEmpty then slash || target.endsInSlash else slash) := by
  obtain ⟨h1, h2, h3⟩ := hn
  rw [walk, if_neg (by simp [hs]), if_neg h1, if_neg h2, if_neg (Nat.not_lt.mpr h3), h]
  simp only [if_pos hf]

theorem walk_directory {mode : Mode} (hs : d.maySearch loc = true) (hn : IsPlain n)
    (h : d.get (n :: loc) = some (.directory mode)) (hr : ¬rest.isEmpty = true) :
    walk d follow links loc (n :: rest) slash = walk d follow links (n :: loc) rest slash := by
  obtain ⟨h1, h2, h3⟩ := hn
  rw [walk, if_neg (by simp [hs]), if_neg h1, if_neg h2, if_neg (Nat.not_lt.mpr h3), h]
  simp only [if_neg hr]

theorem walk_unfollowed {target : Path} (hs : d.maySearch loc = true) (hn : IsPlain n)
    (h : d.get (n :: loc) = some (.link target))
    (hf : ¬(!rest.isEmpty || followsLast follow slash) = true) :
    walk d follow links loc (n :: rest) slash = .ok (.name loc n slash) := by
  obtain ⟨h1, h2, h3⟩ := hn
  rw [walk, if_neg (by simp [hs]), if_neg h1, if_neg h2, if_neg (Nat.not_lt.mpr h3), h]
  simp only [if_neg hf]

theorem walk_free (hs : d.maySearch loc = true) (hn : IsPlain n) (h : d.get (n :: loc) = none) :
    walk d follow links loc (n :: rest) slash =
      if rest.isEmpty then .ok (.name loc n slash) else .error Errno.noEntry := by
  obtain ⟨h1, h2, h3⟩ := hn
  rw [walk, if_neg (by simp [hs]), if_neg h1, if_neg h2, if_neg (Nat.not_lt.mpr h3), h]

theorem walk_last (hs : d.maySearch loc = true) (hn : IsPlain n)
    (h : ∀ target, d.get (n :: loc) ≠ some (.link target)) :
    walk d follow links loc [n] slash = .ok (.name loc n slash) := by
  obtain ⟨h1, h2, h3⟩ := hn
  rw [walk, if_neg (by simp [hs]), if_neg h1, if_neg h2, if_neg (Nat.not_lt.mpr h3)]
  rcases hg : d.get (n :: loc) with _ | (_ | ⟨_, _⟩ | target | _)
  · rfl
  · rfl
  · rfl
  · exact absurd hg (h target)
  · rfl

end Walk

/-- How a walk arrives: past `.` and `..`, through links that are followed and through
directories, and at last at a name with no link that would be followed. Each name is looked
up in a directory that may be passed through. -/
inductive Arrives (d : Disk) (follow : Follow) :
    Nat → Location → List Name → Bool → Target → Prop
  | done {links : Nat} {loc : Location} {slash : Bool} :
      Arrives d follow links loc [] slash (.directory loc)
  | here {links : Nat} {loc : Location} {rest : List Name} {slash : Bool} {t : Target}
      (hs : d.maySearch loc = true) (h : Arrives d follow links loc rest slash t) :
      Arrives d follow links loc (Path.here :: rest) slash t
  | above {links : Nat} {loc : Location} {rest : List Name} {slash : Bool} {t : Target}
      (hs : d.maySearch loc = true) (h : Arrives d follow links loc.tail rest slash t) :
      Arrives d follow links loc (Path.above :: rest) slash t
  | link {links : Nat} {loc : Location} {n : Name} {rest : List Name} {slash : Bool} {t : Target}
      {target : Path} (hs : d.maySearch loc = true) (hn : IsPlain n)
      (hget : d.get (n :: loc) = some (.link target))
      (hf : (!rest.isEmpty || followsLast follow slash) = true)
      (h : Arrives d follow links (startOf loc target) (target.names ++ rest)
        (if rest.isEmpty then slash || target.endsInSlash else slash) t) :
      Arrives d follow (links + 1) loc (n :: rest) slash t
  | directory {links : Nat} {loc : Location} {n : Name} {rest : List Name} {slash : Bool}
      {t : Target} {mode : Mode} (hs : d.maySearch loc = true) (hn : IsPlain n)
      (hget : d.get (n :: loc) = some (.directory mode)) (hr : ¬rest.isEmpty = true)
      (h : Arrives d follow links (n :: loc) rest slash t) :
      Arrives d follow links loc (n :: rest) slash t
  | last {links : Nat} {loc : Location} {n : Name} {slash : Bool}
      (hs : d.maySearch loc = true) (hn : IsPlain n)
      (hlink : ∀ target, d.get (n :: loc) = some (.link target) →
        followsLast follow slash = false) :
      Arrives d follow links loc [n] slash (.name loc n slash)

/-- **A walk comes to an end if it arrives there**, and else to an error. -/
theorem walk_eq_ok_iff {d : Disk} {follow : Follow} {links : Nat} {loc : Location}
    {names : List Name} {slash : Bool} {t : Target} :
    walk d follow links loc names slash = .ok t ↔ Arrives d follow links loc names slash t := by
  constructor
  · intro h
    -- the last name, with anything but a link at it
    have hend : ∀ {links : Nat} {loc : Location} {m : Name} {rest : List Name} {slash : Bool},
        d.maySearch loc = true → IsPlain m → rest.isEmpty = true →
        (∀ target, d.get (m :: loc) ≠ some (.link target)) →
        Except.ok (Target.name loc m slash) = (.ok t : Except Nat Target) →
        Arrives d follow links loc (m :: rest) slash t := by
      intro links loc m rest slash hs hm hr hno ht
      rw [List.isEmpty_iff.mp hr, ← Except.ok.inj ht]
      exact .last hs hm fun target htarget => absurd htarget (hno target)
    fun_induction walk d follow links loc names slash with
    | case1 =>
      rw [← Except.ok.inj h]
      exact .done
    | case2 => cases h
    | case3 links loc slash rest hs ih => exact .here (eq_true_of_ne_false hs) (ih h)
    | case4 links loc slash rest hs _ ih => exact .above (eq_true_of_ne_false hs) (ih h)
    | case5 => cases h
    | case6 => cases h
    | case7 loc slash m rest hs h1 h2 h3 target hm hf links ih =>
      exact .link (eq_true_of_ne_false hs) ⟨h1, h2, Nat.not_lt.mp h3⟩ hm hf (ih h)
    | case8 links loc slash m rest hs h1 h2 h3 target hm hf =>
      -- a link that is left alone is at the end
      obtain ⟨hr, hlast⟩ := Bool.or_eq_false_iff.mp (Bool.eq_false_iff.mpr hf)
      obtain rfl : rest = [] := by simpa using hr
      rw [← Except.ok.inj h]
      exact .last (eq_true_of_ne_false hs) ⟨h1, h2, Nat.not_lt.mp h3⟩ fun _ _ => hlast
    | case9 links loc slash m rest hs h1 h2 h3 mode hm hr =>
      exact hend (eq_true_of_ne_false hs) ⟨h1, h2, Nat.not_lt.mp h3⟩ hr (by simp [hm]) h
    | case10 links loc slash m rest hs h1 h2 h3 mode hm hr ih =>
      exact .directory (eq_true_of_ne_false hs) ⟨h1, h2, Nat.not_lt.mp h3⟩ hm hr (ih h)
    | case11 links loc slash m rest hs h1 h2 h3 e hlink _ hm hr =>
      refine hend (eq_true_of_ne_false hs) ⟨h1, h2, Nat.not_lt.mp h3⟩ hr
        (fun target htarget => ?_) h
      exact hlink target (Option.some.inj (hm.symm.trans htarget))
    | case12 => cases h
    | case13 links loc slash m rest hs h1 h2 h3 hm hr =>
      exact hend (eq_true_of_ne_false hs) ⟨h1, h2, Nat.not_lt.mp h3⟩ hr (by simp [hm]) h
    | case14 => cases h
  · intro h
    induction h with
    | done => rw [walk]
    | here hs _ ih => rw [walk_here hs, ih]
    | above hs _ ih => rw [walk_above hs, ih]
    | link hs hn hget hf _ ih => rw [walk_link hs hn hget hf, ih]
    | directory hs hn hget hr _ ih => rw [walk_directory hs hn hget hr, ih]
    | @last links loc n slash hs hn hlink =>
      by_cases hno : ∀ target, d.get (n :: loc) ≠ some (.link target)
      · exact walk_last hs hn hno
      · obtain ⟨target, htarget⟩ := Classical.not_forall.mp hno
        have hget := Classical.not_not.mp htarget
        exact walk_unfollowed hs hn hget (by simp [hlink target hget])

/-- The location where a walk ends. -/
def Target.location : Target → Location
  | .directory loc => loc
  | .name parent n _ => n :: parent

/-- **A walk ends at the same place** on every disk with the same ways. It may be asked to
follow a link at its end more often than before, if there is none. -/
theorem walk_sameWays {d d' : Disk} {t : Target} (hways : SameWays d d') {follow follow' : Follow}
    (hmore : ∀ slash, followsLast follow slash = true → followsLast follow' slash = true)
    (hlink : ∀ target, d.get t.location = some (.link target) → follow' = follow)
    {links : Nat} {loc : Location} {names : List Name} {slash : Bool}
    (h : walk d follow links loc names slash = .ok t) :
    walk d' follow' links loc names slash = .ok t := by
  rw [walk_eq_ok_iff] at h ⊢
  induction h with
  | done => exact .done
  | here hs _ ih => exact .here (hways.search hs) (ih hlink)
  | above hs _ ih => exact .above (hways.search hs) (ih hlink)
  | @link _ _ _ rest slash _ _ hs hn hget hf _ ih =>
    have hf' : (!rest.isEmpty || followsLast follow' slash) = true := by
      rcases Bool.or_eq_true_iff.mp hf with hr | hl
      · rw [hr, Bool.true_or]
      · rw [hmore slash hl, Bool.or_true]
    exact .link (hways.search hs) hn (hways.link_iff.mpr hget) hf' (ih hlink)
  | directory hs hn hget hr _ ih =>
    exact .directory (hways.search hs) hn (hways.directory hget) hr (ih hlink)
  | last hs hn hlast =>
    refine .last (hways.search hs) hn fun target htarget => ?_
    have hget := hways.link_iff.mp htarget
    rw [hlink target hget]
    exact hlast target hget

theorem resolve_eq_ok_iff {d : Disk} {follow : Follow} {cwd : Location} {p : Path} {t : Target} :
    d.resolve follow cwd p = .ok t ↔
      (p.hasNul = false ∧ p.isEmpty = false ∧ p.length ≤ pathMax) ∧
        walk d follow linkMax (startOf cwd p) p.names p.endsInSlash = .ok t := by
  unfold resolve
  by_cases h1 : p.hasNul = true
  · simp [h1]
  by_cases h2 : p.isEmpty = true
  · simp [h1, h2]
  by_cases h3 : pathMax < p.length
  · simp [h1, h2, h3, Nat.not_le.mpr h3]
  have h : p.hasNul = false ∧ p.isEmpty = false ∧ p.length ≤ pathMax :=
    ⟨Bool.eq_false_iff.mpr h1, Bool.eq_false_iff.mpr h2, Nat.not_lt.mp h3⟩
  rw [if_neg h1, if_neg h2, if_neg h3]
  cases walk d follow linkMax (startOf cwd p) p.names p.endsInSlash with
  | error n => simp
  | ok t' => simp [h]

/-- A path that is a name alone is resolved in one step, unless this is a link. -/
theorem resolve_last {d : Disk} {follow : Follow} {cwd : Location} {p : Path} {n : Name}
    (hp : p.hasNul = false ∧ p.isEmpty = false ∧ p.length ≤ pathMax) (hnames : p.names = [n])
    (hn : IsPlain n) (hs : d.maySearch (startOf cwd p) = true)
    (hlink : ∀ target, d.get (n :: startOf cwd p) ≠ some (.link target)) :
    d.resolve follow cwd p = .ok (.name (startOf cwd p) n p.endsInSlash) := by
  refine resolve_eq_ok_iff.mpr ⟨hp, ?_⟩
  rw [hnames]
  exact walk_last hs hn hlink

/-- **A path is resolved alike** on every disk with the same ways. -/
theorem resolve_sameWays {d d' : Disk} {follow follow' : Follow} {cwd : Location} {p : Path}
    {t : Target} (h : d.resolve follow cwd p = .ok t) (hways : SameWays d d')
    (hmore : ∀ slash, followsLast follow slash = true → followsLast follow' slash = true)
    (hlink : ∀ target, d.get t.location = some (.link target) → follow' = follow) :
    d'.resolve follow' cwd p = .ok t := by
  obtain ⟨hp, hwalk⟩ := resolve_eq_ok_iff.mp h
  exact resolve_eq_ok_iff.mpr ⟨hp, walk_sameWays hways hmore hlink hwalk⟩

theorem resolve_sameTree {d d' : Disk} {follow follow' : Follow} {cwd : Location} {p : Path}
    {t : Target} (h : d.resolve follow cwd p = .ok t) (htree : SameTree d d')
    (hmore : ∀ slash, followsLast follow slash = true → followsLast follow' slash = true)
    (hlink : ∀ target, d.get t.location = some (.link target) → follow' = follow) :
    d'.resolve follow' cwd p = .ok t :=
  resolve_sameWays h htree.sameWays hmore hlink

/-- What is found at the end of a walk. -/
def found (d : Disk) : Target → Except IoError (Location × Entry)
  | .directory loc => .ok (loc, .directory (d.modeAt loc))
  | .name parent n slash =>
    match d.get (n :: parent) with
    | none => .error (.system Errno.noEntry)
    | some e =>
      if slash ∧ e.isDirectory = false then .error (.system Errno.notDirectory)
      else .ok (n :: parent, e)

theorem lookup_of_resolve {d : Disk} {cwd : Location} {p : Path} {t : Target}
    (h : d.resolve .always cwd p = .ok t) : d.lookup cwd p = d.found t := by
  unfold lookup
  rw [h]
  cases t <;> rfl

theorem lookup_eq_ok_iff {d : Disk} {cwd l : Location} {p : Path} {e : Entry} :
    d.lookup cwd p = .ok (l, e) ↔
      ∃ t, d.resolve .always cwd p = .ok t ∧ d.found t = .ok (l, e) := by
  constructor
  · intro h
    cases hr : d.resolve .always cwd p with
    | error err =>
      unfold lookup at h
      rw [hr] at h
      cases h
    | ok t => exact ⟨t, rfl, (lookup_of_resolve hr).symm.trans h⟩
  · rintro ⟨t, hr, hfound⟩
    exact (lookup_of_resolve hr).trans hfound

theorem location_of_found {d : Disk} {t : Target} {l : Location} {e : Entry}
    (h : d.found t = .ok (l, e)) : t.location = l := by
  rcases t with loc | ⟨parent, n, slash⟩
  · exact (Prod.mk.inj (Except.ok.inj h)).1
  unfold found at h
  rcases hg : d.get (n :: parent) with _ | e' <;> simp only [hg] at h
  · cases h
  by_cases hs : slash = true ∧ e'.isDirectory = false
  · rw [if_pos hs] at h
    cases h
  · rw [if_neg hs] at h
    exact (Prod.mk.inj (Except.ok.inj h)).1

theorem found_congr {d d' : Disk} {t : Target} (h : d'.get t.location = d.get t.location) :
    d'.found t = d.found t := by
  rcases t with loc | ⟨parent, n, slash⟩
  · have h' : d'.get loc = d.get loc := h
    simp only [found, modeAt_congr h']
  · have h' : d'.get (n :: parent) = d.get (n :: parent) := h
    simp only [found, h']

theorem lookup_sameTree {d d' : Disk} (htree : SameTree d d') {cwd l : Location} {p : Path}
    {e : Entry} (h : d.lookup cwd p = .ok (l, e)) (hl : d'.get l = d.get l) :
    d'.lookup cwd p = .ok (l, e) := by
  obtain ⟨t, hr, hfound⟩ := lookup_eq_ok_iff.mp h
  have hloc := location_of_found hfound
  refine lookup_eq_ok_iff.mpr ⟨t, resolve_sameTree hr htree (fun _ h => h) fun _ _ => rfl, ?_⟩
  rw [found_congr (d := d) (by rw [hloc, hl]), hfound]

end Disk
end StressBench
