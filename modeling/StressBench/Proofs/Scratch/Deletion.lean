/-
# Deleting what a path names

A deletion takes the entry that the path names, if there is one, it is no directory and its
directory may be changed, or it is refused and changes nothing. So a deletion that was refused
is refused again, for the same reason. After one that was not, the way to the entry ends where
the entry was: perhaps on the way, if the path led through the link that is gone, perhaps only
at its end. In either case nothing is found, however often it is tried.

Key definitions: `Disk.cleanUps`, `Cleanup.Classifies`, `Cleanup.Warns`.
Key theorems: `Disk.walk_gone`, `Disk.removeFile_cases`, `Disk.removeFile_again`,
`Disk.cleanUp_cases`, `Disk.cleanUp_of_locked`, `Disk.cleanUps_of_stays`,
`Disk.deletion_classified`.
-/
import StressBench.Proofs.Disk.Links
import StressBench.Scratch

namespace StressBench

/-! ### Classes and warnings -/

namespace Cleanup

/-- The class of what a deletion came to, by the kind of its error. -/
structure Classifies (result : Except IoError Unit) (c : Cleanup) : Prop where
  deleted_iff : c = .deleted ↔ result = .ok ()
  notFound_iff : c = .notFound ↔ ∃ e, result = .error e ∧ e.kind = .notFound
  permissionDenied_iff : ∀ e,
    c = .permissionDenied e ↔ result = .error e ∧ e.kind = .permissionDenied
  failed_iff : ∀ e,
    c = .failed e ↔ result = .error e ∧ e.kind ≠ .notFound ∧ e.kind ≠ .permissionDenied

/-- The error that a class carries. -/
def error? : Cleanup → Option IoError
  | .deleted | .notFound => none
  | .permissionDenied e | .failed e => some e

/-- There is a warning unless the file was deleted. It shows the path, and the error if the
class carries one. -/
structure Warns (path : Path) (c : Cleanup) : Prop where
  none_iff : c.warning? path = none ↔ c = .deleted
  path_shown : ∀ w, c.warning? path = some w → path.display.toList <:+: w.toList
  error_shown : ∀ w e, c.warning? path = some w → c.error? = some e →
    e.message.toList <:+: w.toList

theorem ofResult_classifies (result : Except IoError Unit) :
    Classifies result (.ofResult result) := by
  rcases result with e | ⟨⟩
  · by_cases hmissing : e.kind = .notFound
    · have hclass : ofResult (.error e) = .notFound := by simp [ofResult, hmissing]
      rw [hclass]
      constructor <;> simp +contextual [hmissing, eq_comm]
    by_cases hdenied : e.kind = .permissionDenied
    · have hclass : ofResult (.error e) = .permissionDenied e := by simp [ofResult, hdenied]
      rw [hclass]
      constructor <;> simp +contextual [hdenied, eq_comm]
    · have hclass : ofResult (.error e) = .failed e := by
        unfold ofResult
        dsimp only
        split
        · next h => exact absurd h hmissing
        · next h => exact absurd h hdenied
        · rfl
      rw [hclass]
      constructor <;> simp +contextual [Ne.symm hmissing, Ne.symm hdenied, eq_comm]
  · constructor <;> simp [ofResult]

theorem warns (path : Path) (c : Cleanup) : Warns path c where
  none_iff := warning?_eq_none_iff path c
  path_shown w hw := by
    cases c with
    | deleted => cases hw
    | notFound =>
      cases hw
      rw [String.toList_append]
      exact (List.suffix_append _ _).isInfix
    | permissionDenied e | failed e =>
      cases hw
      simp only [String.toList_append]
      exact (List.suffix_append _ _).isInfix.trans
        ((List.prefix_append _ _).trans (List.prefix_append _ _)).isInfix
  error_shown w e hw he := by
    cases c with
    | deleted | notFound => cases he
    | permissionDenied e | failed e =>
      cases hw
      cases he
      rw [String.toList_append]
      exact (List.suffix_append _ _).isInfix

end Cleanup

namespace Disk

variable {d d' : Disk} {cwd loc : Location} {p : Path}

/-! ### The way to an entry that is gone -/

/-- The first time that a walk comes to the place it ends there. -/
theorem walk_at_gone {parent : Location} {n : Name} (hgone : d.get (n :: parent) = none)
    {follow : Follow} {links : Nat} {rest : List Name} {slash : Bool} {m : Name}
    (hs : d.maySearch loc = true) (hm : IsPlain m) (hloc : m :: loc = n :: parent) :
    walk d follow links loc (m :: rest) slash = .error Errno.noEntry ∨
      ∃ slash', walk d follow links loc (m :: rest) slash = .ok (.name parent n slash') := by
  rw [walk_free hs hm (hloc ▸ hgone)]
  obtain ⟨rfl, rfl⟩ := List.cons_eq_cons.mp hloc
  by_cases hr : rest.isEmpty = true
  · exact .inr ⟨slash, if_pos hr⟩
  · exact .inl (if_neg hr)

/-- **A walk to an entry that is gone** ends where it was: on the way if it leads through the
place, and else at its end. -/
theorem walk_gone {parent : Location} {n : Name} (hoff : AgreeOff (n :: parent) d d')
    (hgone : d'.get (n :: parent) = none) {follow : Follow} {links : Nat} {names : List Name}
    {slash slash' : Bool} (h : walk d follow links loc names slash = .ok (.name parent n slash')) :
    walk d' follow links loc names slash = .error Errno.noEntry ∨
      ∃ slash'', walk d' follow links loc names slash = .ok (.name parent n slash'') := by
  rw [walk_eq_ok_iff] at h
  generalize ht : Target.name parent n slash' = t at h
  have hsearch : ∀ {l}, d.maySearch l = true → d'.maySearch l = true :=
    search_of_agreeOff hoff hgone
  induction h with
  | done => cases ht
  | here hs _ ih =>
    rw [walk_here (hsearch hs)]
    exact ih ht
  | above hs _ ih =>
    rw [walk_above (hsearch hs)]
    exact ih ht
  -- a link that is followed: it may be the entry itself
  | @link _ loc m _ _ _ _ hs hn hget hf _ ih =>
    by_cases hloc : m :: loc = n :: parent
    · exact walk_at_gone hgone (hsearch hs) hn hloc
    · rw [walk_link (hsearch hs) hn ((hoff _ hloc).trans hget) hf]
      exact ih ht
  | @directory _ loc m _ _ _ _ hs hn hget hr _ ih =>
    by_cases hloc : m :: loc = n :: parent
    · exact walk_at_gone hgone (hsearch hs) hn hloc
    · rw [walk_directory (hsearch hs) hn ((hoff _ hloc).trans hget) hr]
      exact ih ht
  | last hs hn _ =>
    obtain ⟨rfl, rfl, -⟩ := Target.name.inj ht
    exact walk_at_gone hgone (hsearch hs) hn rfl

theorem resolve_gone (hnamed : d.Names cwd p loc) (hoff : AgreeOff loc d d')
    (hgone : d'.get loc = none) :
    d'.resolve .never cwd p = .error (.system Errno.noEntry) ∨
      ∃ parent n slash, loc = n :: parent ∧
        d'.resolve .never cwd p = .ok (.name parent n slash) := by
  obtain ⟨parent, n, rfl, hr⟩ := hnamed
  obtain ⟨hp, hwalk⟩ := resolve_eq_ok_iff.mp hr
  rcases walk_gone hoff hgone hwalk with herror | ⟨slash, hwalk'⟩
  · refine .inl ?_
    obtain ⟨hnul, hempty, hlength⟩ := hp
    unfold resolve
    rw [if_neg (Bool.eq_false_iff.mp hnul), if_neg (Bool.eq_false_iff.mp hempty),
      if_neg (Nat.not_lt.mpr hlength), herror]
  · exact .inr ⟨parent, n, slash, rfl, resolve_eq_ok_iff.mpr ⟨hp, hwalk'⟩⟩

/-! ### One deletion -/

/-- **A deletion takes the entry that the path names,** which is no directory and in one that
may be changed, or it is refused and changes nothing. -/
theorem removeFile_cases (d : Disk) (cwd : Location) (p : Path) :
    (∃ loc e, d.Names cwd p loc ∧ d.get loc = some e ∧ e.isDirectory = false ∧
        d.mayChange loc.tail = true ∧ d.removeFile cwd p = (.ok (), d.erase loc)) ∨
      ∃ e, d.removeFile cwd p = (.error e, d) := by
  rcases hr : d.resolve .never cwd p with e | ⟨l⟩ | ⟨parent, n, slash⟩
  · exact .inr ⟨e, by unfold removeFile; rw [hr]⟩
  · exact .inr ⟨_, by unfold removeFile; rw [hr]⟩
  cases slash with
  | true =>
    refine .inr ?_
    unfold removeFile
    rw [hr]
    cases hget : d.get (n :: parent) <;> simp only [hget, if_true] <;> exact ⟨_, rfl⟩
  | false =>
    have hnamed : d.Names cwd p (n :: parent) := ⟨parent, n, rfl, hr⟩
    have hremoved := removeFile_eq_of_names hnamed
    rcases hget : d.get (n :: parent) with _ | e <;> rw [hget] at hremoved
    · exact .inr ⟨_, hremoved⟩
    cases hchange : d.mayChange parent with
    | false => exact .inr ⟨_, hremoved.trans (if_pos hchange)⟩
    | true =>
      cases hdir : e.isDirectory with
      | true => exact .inr ⟨_, by simpa [hchange, hdir] using hremoved⟩
      | false =>
        refine .inl ⟨n :: parent, e, hnamed, hget, hdir, hchange, ?_⟩
        exact (removeFile_of_entry hnamed hget hdir).trans (if_pos hchange)

/-- **What has been deleted is not found again.** -/
theorem removeFile_again (hnamed : d.Names cwd p loc) :
    (d.erase loc).removeFile cwd p = (.error (.system Errno.noEntry), d.erase loc) := by
  have hgone : (d.erase loc).get loc = none := get_erase_self d hnamed.ne_nil
  have hoff : AgreeOff loc d (d.erase loc) := fun _ hl => get_erase_of_ne d hl
  rcases resolve_gone hnamed hoff hgone with hr | ⟨parent, n, slash, rfl, hr⟩
  · unfold removeFile
    rw [hr]
  · unfold removeFile
    rw [hr]
    simp only [hgone]

theorem cleanUp_cases (d : Disk) (cwd : Location) (p : Path) :
    (∃ loc e, d.Names cwd p loc ∧ d.get loc = some e ∧ e.isDirectory = false ∧
        d.mayChange loc.tail = true ∧ d.cleanUp cwd p = (.deleted, d.erase loc)) ∨
      ∃ c, c ≠ .deleted ∧ d.cleanUp cwd p = (c, d) ∧
        ∀ loc e, d.Names cwd p loc → d.get loc = some e → e.isDirectory = false →
          d.mayChange loc.tail = false := by
  rcases removeFile_cases d cwd p with
    ⟨loc, e, hnamed, he, hdir, hchange, hremoved⟩ | ⟨e, hrefused⟩
  · refine .inl ⟨loc, e, hnamed, he, hdir, hchange, ?_⟩
    rw [cleanUp, hremoved]
    rfl
  · refine .inr ⟨.ofResult (.error e), fun hdeleted => ?_, ?_,
      fun loc entry hnamed hentry hdir => ?_⟩
    · cases (Cleanup.ofResult_classifies (.error e)).deleted_iff.mp hdeleted
    · rw [cleanUp, hrefused]
    · rw [removeFile_of_entry hnamed hentry hdir] at hrefused
      cases hchange : d.mayChange loc.tail with
      | true =>
        rw [if_pos hchange] at hrefused
        cases hrefused
      | false => rfl

theorem cleanUp_of_locked (hnamed : d.Names cwd p loc) {e : Entry} (he : d.get loc = some e)
    (hchange : d.mayChange loc.tail = false) :
    d.cleanUp cwd p = (.permissionDenied (.system Errno.accessDenied), d) := by
  rw [cleanUp, removeFile_eq_of_names hnamed, he]
  simp only [if_pos hchange]
  rfl

/-! ### Deletions one after another -/

/-- Deletes what a path names, again and again, and tells each time what came of it. -/
def cleanUps (d : Disk) (cwd : Location) (p : Path) : Nat → List Cleanup × Disk
  | 0 => ([], d)
  | n + 1 =>
    let (outcomes, d) := d.cleanUps cwd p n
    let (outcome, d) := d.cleanUp cwd p
    (outcomes ++ [outcome], d)

theorem cleanUps_of_stays {c : Cleanup} (h : d.cleanUp cwd p = (c, d)) (n : Nat) :
    d.cleanUps cwd p n = (List.replicate n c, d) := by
  induction n with
  | zero => rfl
  | succ n ih =>
    rw [cleanUps, ih]
    simp only [h, List.replicate_succ']

/-- **Deletion is told as it was, and only the first one counts.** What was deleted is the one
entry that the path names, which was no directory and in one that may be changed, and from then
on nothing is found there. Otherwise nothing has changed, and the same is told each time: that
permission was denied, for what is in a directory that may not be changed. The class goes by
the kind of the error, and there is a warning that shows it unless the file was deleted. -/
theorem deletion_classified (d : Disk) (cwd : Location) (p : Path) :
    let outcome := (d.cleanUp cwd p).1
    let after := (d.cleanUp cwd p).2
    (outcome = .deleted ↔
      ∃ loc e, d.Names cwd p loc ∧ d.get loc = some e ∧ e.isDirectory = false ∧
        d.mayChange loc.tail = true) ∧
    (outcome = .deleted →
      ∃ loc e, d.Names cwd p loc ∧ d.get loc = some e ∧ e.isDirectory = false ∧
        after.get loc = none ∧ AgreeOff loc d after ∧ after.room = d.room ∧
        ∀ n, after.cleanUps cwd p n = (List.replicate n .notFound, after)) ∧
    (outcome ≠ .deleted → after = d ∧
      ∀ n, after.cleanUps cwd p n = (List.replicate n outcome, after)) ∧
    (∀ loc e, d.Names cwd p loc → d.get loc = some e → d.mayChange loc.tail = false →
      outcome = .permissionDenied (.system Errno.accessDenied)) ∧
    outcome = .ofResult (d.removeFile cwd p).1 ∧
    (∀ result, Cleanup.Classifies result (.ofResult result)) ∧
    ∀ c : Cleanup, c.Warns p := by
  have htold : (d.cleanUp cwd p).1 = .ofResult (d.removeFile cwd p).1 := rfl
  have hlocked : ∀ loc e, d.Names cwd p loc → d.get loc = some e → d.mayChange loc.tail = false →
      (d.cleanUp cwd p).1 = .permissionDenied (.system Errno.accessDenied) :=
    fun loc e hnamed he hchange => congrArg Prod.fst (cleanUp_of_locked hnamed he hchange)
  dsimp only
  rcases cleanUp_cases d cwd p with
    ⟨loc, e, hnamed, he, hdir, hchange, h⟩ | ⟨c, hc, h, hkept⟩ <;> rw [h] at htold hlocked ⊢
  · have hagain : (d.erase loc).cleanUp cwd p = (.notFound, d.erase loc) := by
      rw [cleanUp, removeFile_again hnamed]
      rfl
    refine ⟨⟨fun _ => ⟨loc, e, hnamed, he, hdir, hchange⟩, fun _ => rfl⟩, fun _ => ?_,
      fun hne => absurd rfl hne, hlocked, htold, Cleanup.ofResult_classifies, Cleanup.warns p⟩
    exact ⟨loc, e, hnamed, he, hdir, get_erase_self d hnamed.ne_nil,
      fun _ hl => get_erase_of_ne d hl, rfl, cleanUps_of_stays hagain⟩
  · refine ⟨⟨fun hdeleted => absurd hdeleted hc, ?_⟩, fun hdeleted => absurd hdeleted hc,
      fun _ => ⟨rfl, cleanUps_of_stays h⟩, hlocked, htold, Cleanup.ofResult_classifies,
      Cleanup.warns p⟩
    rintro ⟨loc, e, hnamed, he, hdir, hchange⟩
    cases hchange.symm.trans (hkept loc e hnamed he hdir)

/-- A disk with a link to the directory that it is in. -/
def loopDisk : Disk :=
  ⟨[([[0x6C]], .link [0x2E])], none⟩

/-- The link is deleted by a path that leads through it, and then not found any more. -/
theorem loopDisk_deleted :
    (loopDisk.cleanUp [] [0x6C, 0x2F, 0x6C]).1 = .deleted ∧
      ∀ n, (loopDisk.cleanUp [] [0x6C, 0x2F, 0x6C]).2.cleanUps [] [0x6C, 0x2F, 0x6C] n =
        (List.replicate n .notFound, (loopDisk.cleanUp [] [0x6C, 0x2F, 0x6C]).2) := by
  have hl : IsPlain [0x6C] := ⟨by decide, by decide, by decide⟩
  have hget : loopDisk.get [[0x6C]] = some (.link [0x2E]) := rfl
  have hwalk : walk loopDisk .never linkMax [] [[0x6C], [0x6C]] false =
      .ok (.name [] [0x6C] false) :=
    walk_eq_ok_iff.mpr (.link rfl hl hget rfl (.here rfl (.last rfl hl fun _ _ => rfl)))
  have hnamed : loopDisk.Names [] [0x6C, 0x2F, 0x6C] [[0x6C]] :=
    ⟨[], [0x6C], rfl, resolve_eq_ok_iff.mpr ⟨⟨rfl, rfl, by decide⟩, hwalk⟩⟩
  obtain ⟨hiff, hgone, -⟩ := deletion_classified loopDisk [] [0x6C, 0x2F, 0x6C]
  have hdeleted := hiff.mpr ⟨_, _, hnamed, hget, rfl, rfl⟩
  obtain ⟨_, _, -, -, -, -, -, -, hagain⟩ := hgone hdeleted
  exact ⟨hdeleted, hagain⟩

end Disk
end StressBench
