/-
# Clean-up and links

A scratch file is opened through a link at the end of its path, but it is deleted by the
path itself. So clean-up takes away the file that was opened, and nothing else, exactly when
the path does not end in a link and the directory of the file may be changed. If it ends in a
link, the link is gone, and the file that it led to stays, with the corpus or the part of it
that was written.

Key definitions: `Scratch.Cleared`, `Scratch.Stays`, `Disk.OnlyGone`.
Key theorems: `Scratch.create_of_open`, `Scratch.removeFile_written`, `Scratch.cleared_eq`,
`Scratch.link_gone`, `Scratch.clearing_takes_the_name`, `Scratch.linkedDisk_uncleared`.
-/
import StressBench.Proofs.Disk.Links
import StressBench.Proofs.Harness.Agreement
import StressBench.Proofs.Scratch.Creation

namespace StressBench

/-- The file at a place is gone, and every other entry that was there is there still. -/
structure Disk.OnlyGone (d d₂ : Disk) (loc : Location) : Prop where
  gone : d₂.get loc = none
  kept : ∀ l e, l ≠ loc → d.get l = some e → d₂.get l = some e

namespace Scratch

variable {α : Type} {d d' d₁ d₂ : Disk} {cwd loc named : Location} {p : Path} {feed : LineFeed α}

/-- **What creating a scratch file does at the place that was opened.** The disk `d₁` is the
one on which the writing ended: the file has the bytes, or the first of them if the disk was
full. -/
theorem create_of_open (hopen : d.openForWriting cwd p = .ok (loc, d'))
    (hfile : ∀ k, d.get loc ≠ some (.device k)) (feed : LineFeed α) :
    ∃ d₁ content mode, Disk.AgreeOff loc d d₁ ∧ d₁.get loc = some (.file content mode) ∧
      content <+: fileBytes headerLine feed.lines terminatorLine ∧
      ((create p feed cwd d).result = .ok ⟨p⟩ ∧ (create p feed cwd d).disk = d₁ ∧
          content = fileBytes headerLine feed.lines terminatorLine ∨
        ∃ e, (create p feed cwd d).result = .error (.corpusWrite p e) ∧
          (create p feed cwd d).disk = drop ⟨p⟩ cwd d₁) := by
  obtain ⟨parent, n, mode, rfl, -, -, rfl⟩ := Disk.openForWriting_eq_ok hopen hfile
  have hne : n :: parent ≠ [] := List.cons_ne_nil n parent
  have hget := d.get_put_self (.file [] mode) hne
  have hsink := d.sinkFor_put hne mode
  have htaken := taken_writeLines ((d.put (n :: parent) (.file [] mode)).sinkFor (n :: parent))
    headerLine feed terminatorLine
  have hwhole := writeLines_error_eq_none_iff headerLine feed terminatorLine
    (s := (d.put (n :: parent) (.file [] mode)).sinkFor (n :: parent)) (by rw [hsink])
  have hfits := fun h => (writeLines_of_fits headerLine feed terminatorLine
    (s := (d.put (n :: parent) (.file [] mode)).sinkFor (n :: parent)) h).2
  have hempty : ((d.put (n :: parent) (.file [] mode)).sinkFor (n :: parent)).taken = [] := by
    rw [hsink]
    rfl
  rw [hempty, List.nil_append, ← fileBytes] at htaken hfits
  unfold create
  rw [hopen]
  simp only
  generalize writeLines ((d.put (n :: parent) (.file [] mode)).sinkFor (n :: parent)) headerLine
    feed terminatorLine = w at htaken hwhole hfits ⊢
  refine ⟨(d.put (n :: parent) (.file [] mode)).finish (n :: parent) w.sink, w.sink.taken, mode,
    ?_, ?_, ?_, ?_⟩
  · rw [Disk.finish, hget]
    exact (Disk.agreeOff_put d _ _).trans (Disk.agreeOff_put _ _ _)
  · rw [Disk.finish, hget]
    exact Disk.get_put_self _ _ hne
  · rw [htaken]
    exact List.take_prefix _ _
  · rcases w with ⟨_ | e, sink, rest⟩
    · exact .inl ⟨rfl, rfl, hfits (hwhole.mp rfl)⟩
    · exact .inr ⟨e, rfl, rfl⟩

/-! ### The ways of clean-up -/

/-- The disks that are left when a scratch file has been created and cleared away: its owner
has removed it, or has gone without removing it, or the writing failed. -/
inductive Cleared (p : Path) (feed : LineFeed α) (cwd : Location) (d : Disk) : Disk → Prop
  | removed {s : Scratch} {d₂ : Disk} (h : (create p feed cwd d).result = .ok s)
      (hd₂ : s.remove cwd (create p feed cwd d).disk = (.deleted, d₂)) : Cleared p feed cwd d d₂
  | dropped {s : Scratch} (h : (create p feed cwd d).result = .ok s) :
      Cleared p feed cwd d (s.drop cwd (create p feed cwd d).disk)
  | failed {f : Failure} (h : (create p feed cwd d).result = .error f) :
      Cleared p feed cwd d (create p feed cwd d).disk

/-- The file at the place has what was written: all of it, or the first part if the writing
failed. -/
def Stays (p : Path) (feed : LineFeed α) (cwd : Location) (d : Disk) (loc : Location)
    (d₂ : Disk) : Prop :=
  ∃ content mode, d₂.get loc = some (.file content mode) ∧
    content <+: fileBytes headerLine feed.lines terminatorLine ∧
    ((create p feed cwd d).result = .ok ⟨p⟩ →
      content = fileBytes headerLine feed.lines terminatorLine)

/-- What deleting the path does to the disk on which the writing ended: what the path names
is taken away, unless the directory that it is in may not be changed. -/
theorem removeFile_written (hnamed : d.Names cwd p named)
    (hlink : named = loc ∨ ∃ target, d.get named = some (.link target))
    (hopen : d.openForWriting cwd p = .ok (loc, d'))
    (hfile : ∀ k, d.get loc ≠ some (.device k)) (hoff : Disk.AgreeOff loc d d₁)
    {content : Bytes} {mode : Mode} (hget : d₁.get loc = some (.file content mode)) :
    d₁.removeFile cwd p =
      if d.mayChange named.tail then (.ok (), d₁.erase named)
      else (.error (.system Errno.accessDenied), d₁) := by
  obtain ⟨parent, n, -, rfl, -, hold, -⟩ := Disk.openForWriting_eq_ok hopen hfile
  have hfree : d₁.FileOrFree (n :: parent) := fun e he =>
    ⟨content, mode, Option.some.inj (he.symm.trans hget)⟩
  have htree := Disk.sameTree_of_agreeOff hoff hold hfree
  obtain ⟨e, he, hdir⟩ : ∃ e, d₁.get named = some e ∧ e.isDirectory = false := by
    rcases hlink with rfl | ⟨target, htarget⟩
    · exact ⟨_, hget, rfl⟩
    · have hne : named ≠ n :: parent := fun heq => hold.ne_link target (heq ▸ htarget)
      exact ⟨_, (hoff named hne).trans htarget, rfl⟩
  rw [Disk.removeFile_of_entry (hnamed.again htree) he hdir, htree.mayChange_eq]

theorem remove_of_create (hnamed : d.Names cwd p named)
    (hlink : named = loc ∨ ∃ target, d.get named = some (.link target))
    (hopen : d.openForWriting cwd p = .ok (loc, d'))
    (hfile : ∀ k, d.get loc ≠ some (.device k)) {s : Scratch}
    (h : (create p feed cwd d).result = .ok s) :
    (s.remove cwd (create p feed cwd d).disk).1 =
      if d.mayChange named.tail then .deleted
      else .permissionDenied (.system Errno.accessDenied) := by
  obtain ⟨d₁, content, mode, hoff, hget, -, ⟨hresult, hdisk, -⟩ | ⟨e, hresult, -⟩⟩ :=
    create_of_open hopen hfile feed
  · obtain rfl := Except.ok.inj (h.symm.trans hresult)
    rw [remove, Disk.cleanUp, hdisk, removeFile_written hnamed hlink hopen hfile hoff hget]
    cases d.mayChange named.tail <;> rfl
  · cases h.symm.trans hresult

/-- **What is left is the disk on which the writing ended,** after one deletion of the path. -/
theorem cleared_eq (hopen : d.openForWriting cwd p = .ok (loc, d'))
    (hfile : ∀ k, d.get loc ≠ some (.device k)) (h : Cleared p feed cwd d d₂) :
    ∃ d₁, d₂ = (d₁.removeFile cwd p).2 ∧ Disk.AgreeOff loc d d₁ ∧
      Stays p feed cwd d loc d₁ := by
  obtain ⟨d₁, content, mode, hoff, hget, hprefix, hends⟩ := create_of_open hopen hfile feed
  refine ⟨d₁, ?_, hoff, content, mode, hget, hprefix, fun hok => ?_⟩
  · rcases hends with ⟨hresult, hdisk, -⟩ | ⟨e, hresult, hdisk⟩
    · cases h with
      | removed hs hd₂ =>
        obtain rfl := Except.ok.inj (hs.symm.trans hresult)
        rw [remove, Disk.cleanUp, hdisk] at hd₂
        exact (Prod.mk.inj hd₂).2.symm
      | dropped hs =>
        obtain rfl := Except.ok.inj (hs.symm.trans hresult)
        rw [drop, hdisk]
      | failed hs => cases hs.symm.trans hresult
    · cases h with
      | removed hs _ => cases hs.symm.trans hresult
      | dropped hs => cases hs.symm.trans hresult
      | failed hs => rw [hdisk, drop]
  · rcases hends with ⟨-, -, hcontent⟩ | ⟨e, hresult, -⟩
    · exact hcontent
    · cases hok.symm.trans hresult

theorem onlyGone_of_names (hnamed : d.Names cwd p loc) (hchange : d.mayChange loc.tail = true)
    (hopen : d.openForWriting cwd p = .ok (loc, d'))
    (hfile : ∀ k, d.get loc ≠ some (.device k)) (h : Cleared p feed cwd d d₂) :
    d₂.get loc = none ∧ Disk.AgreeOff loc d d₂ := by
  obtain ⟨d₁, rfl, hoff, content, mode, hget, -⟩ := cleared_eq hopen hfile h
  rw [removeFile_written hnamed (.inl rfl) hopen hfile hoff hget, if_pos hchange]
  exact ⟨Disk.get_erase_self _ hnamed.ne_nil,
    fun l hl => (Disk.get_erase_of_ne _ hl).trans (hoff l hl)⟩

theorem link_gone (hnamed : d.Names cwd p named) {target : Path}
    (htarget : d.get named = some (.link target)) (hne : named ≠ loc)
    (hchange : d.mayChange named.tail = true)
    (hopen : d.openForWriting cwd p = .ok (loc, d'))
    (hfile : ∀ k, d.get loc ≠ some (.device k)) (h : Cleared p feed cwd d d₂) :
    d₂.get named = none ∧ Stays p feed cwd d loc d₂ ∧
      ∀ l, l ≠ named → l ≠ loc → d₂.get l = d.get l := by
  obtain ⟨d₁, rfl, hoff, content, mode, hget, hcontent⟩ := cleared_eq hopen hfile h
  rw [removeFile_written hnamed (.inr ⟨target, htarget⟩) hopen hfile hoff hget, if_pos hchange]
  refine ⟨Disk.get_erase_self _ hnamed.ne_nil, ⟨content, mode, ?_, hcontent⟩, ?_⟩
  · exact (Disk.get_erase_of_ne _ (Ne.symm hne)).trans hget
  · exact fun l hl hloc => (Disk.get_erase_of_ne _ hl).trans (hoff l hloc)

theorem nothing_gone (hnamed : d.Names cwd p named)
    (hlink : named = loc ∨ ∃ target, d.get named = some (.link target))
    (hchange : d.mayChange named.tail = false)
    (hopen : d.openForWriting cwd p = .ok (loc, d'))
    (hfile : ∀ k, d.get loc ≠ some (.device k)) (h : Cleared p feed cwd d d₂) :
    Stays p feed cwd d loc d₂ ∧ Disk.AgreeOff loc d d₂ := by
  obtain ⟨d₁, rfl, hoff, content, mode, hget, hcontent⟩ := cleared_eq hopen hfile h
  rw [removeFile_written hnamed hlink hopen hfile hoff hget, if_neg (by simp [hchange])]
  exact ⟨⟨content, mode, hget, hcontent⟩, hoff⟩

/-- **Clean-up takes the entry that the path names,** by whichever way, if the directory that
this entry is in may be changed. It is the file that was opened, and nothing else, exactly when
the path does not end in a link. A link is taken in place of the file that it leads to, which
stays as it was written. From a directory that may not be changed nothing is taken. A file that
was not there before is never in one. -/
theorem clearing_takes_the_name (hopen : d.openForWriting cwd p = .ok (loc, d'))
    (hfile : ∀ k, d.get loc ≠ some (.device k)) (feed : LineFeed α) :
    ∃ named, d.Names cwd p named ∧ (named = loc ∨ ∃ target, d.get named = some (.link target)) ∧
      (d.get named = none → d.mayChange named.tail = true) ∧
      (∀ s, (create p feed cwd d).result = .ok s →
        (s.remove cwd (create p feed cwd d).disk).1 =
          if d.mayChange named.tail then .deleted
          else .permissionDenied (.system Errno.accessDenied)) ∧
      ∀ d₂, Cleared p feed cwd d d₂ →
        (d.OnlyGone d₂ loc ↔
          d.mayChange named.tail = true ∧ ∀ target, d.get named ≠ some (.link target)) ∧
        (d.mayChange named.tail = true →
          ((∀ target, d.get named ≠ some (.link target)) →
            d₂.get loc = none ∧ Disk.AgreeOff loc d d₂) ∧
          ∀ target, d.get named = some (.link target) →
            d₂.get named = none ∧ Stays p feed cwd d loc d₂ ∧
              ∀ l, l ≠ named → l ≠ loc → d₂.get l = d.get l) ∧
        (d.mayChange named.tail = false →
          Stays p feed cwd d loc d₂ ∧ Disk.AgreeOff loc d d₂) := by
  obtain ⟨named, hnamed, hlink⟩ := Disk.names_of_open hopen
  obtain ⟨parent, n, -, rfl, -, hold, -⟩ := Disk.openForWriting_eq_ok hopen hfile
  refine ⟨named, hnamed, hlink, fun hnew => ?_,
    fun s hs => remove_of_create hnamed hlink hopen hfile hs, fun d₂ h => ?_⟩
  · rcases hlink with rfl | ⟨target, htarget⟩
    · exact Disk.mayChange_of_made hopen hnew
    · cases hnew.symm.trans htarget
  have hfileGone : d.mayChange named.tail = true →
      (∀ target, d.get named ≠ some (.link target)) →
      d₂.get (n :: parent) = none ∧ Disk.AgreeOff (n :: parent) d d₂ := by
    intro hchange hno
    rcases hlink with rfl | ⟨target, htarget⟩
    · exact onlyGone_of_names hnamed hchange hopen hfile h
    · exact absurd htarget (hno target)
  have hlinkGone : d.mayChange named.tail = true →
      ∀ target, d.get named = some (.link target) → d₂.get named = none ∧
        Stays p feed cwd d (n :: parent) d₂ ∧
          ∀ l, l ≠ named → l ≠ n :: parent → d₂.get l = d.get l := by
    intro hchange target htarget
    have hne : named ≠ n :: parent := fun heq => hold.ne_link target (heq ▸ htarget)
    exact link_gone hnamed htarget hne hchange hopen hfile h
  have hlocked := fun hchange => nothing_gone hnamed hlink hchange hopen hfile h
  refine ⟨⟨fun honly => ?_, fun ⟨hchange, hno⟩ => ?_⟩,
    fun hchange => ⟨hfileGone hchange, hlinkGone hchange⟩, hlocked⟩
  · -- a file that stays is not gone, be it in such a directory or behind a link
    have hgone : ¬Stays p feed cwd d (n :: parent) d₂ := by
      rintro ⟨content, mode, hstays, -⟩
      cases honly.gone.symm.trans hstays
    cases hchange : d.mayChange named.tail with
    | true => exact ⟨rfl, fun target htarget => hgone (hlinkGone hchange target htarget).2.1⟩
    | false => exact absurd (hlocked hchange).1 hgone
  · obtain ⟨hgone, hoff⟩ := hfileGone hchange hno
    exact ⟨hgone, fun l e hl he => (hoff l hl).trans he⟩

/-- The disk with the link `l` to the file `o`, with room for five bytes in a file. -/
def fullDisk : Disk :=
  { Corpus.linkedDisk with room := some 5 }

theorem resolve_fullDisk {follow : Follow} :
    fullDisk.resolve follow [] [0x6F] = .ok (.name [] [0x6F] false) := by
  have ho : Disk.IsPlain [0x6F] := ⟨by decide, by decide, by decide⟩
  exact Disk.resolve_last ⟨rfl, rfl, by decide⟩ rfl ho rfl fun target htarget => by cases htarget

theorem names_fullDisk : fullDisk.Names [] [0x6F] [[0x6F]] :=
  ⟨[], [0x6F], rfl, resolve_fullDisk⟩

theorem open_fullDisk : fullDisk.openForWriting [] [0x6F] =
    .ok ([[0x6F]], fullDisk.put [[0x6F]] (.file [] Mode.ofFile)) := by
  unfold Disk.openForWriting
  rw [resolve_fullDisk]
  rfl

/-- The disk fills up while the corpus is written over `o`: the file is gone then, and the
link that led to it is still there. -/
theorem fullDisk_cleared :
    fullDisk.openForWriting [] [0x6F] =
        .ok ([[0x6F]], fullDisk.put [[0x6F]] (.file [] Mode.ofFile)) ∧
      (∀ k, fullDisk.get [[0x6F]] ≠ some (.device k)) ∧
      Cleared [0x6F] (.ofList []) [] fullDisk (create [0x6F] (.ofList []) [] fullDisk).disk ∧
      fullDisk.OnlyGone (create [0x6F] (.ofList []) [] fullDisk).disk [[0x6F]] ∧
      (create [0x6F] (.ofList []) [] fullDisk).disk.get [[0x6C]] = some (.link [0x6F]) := by
  have hfile : ∀ k, fullDisk.get [[0x6F]] ≠ some (.device k) := fun k hk => by cases hk
  have hfull : ¬fullDisk.HasRoom
      (fileBytes headerLine (LineFeed.ofList []).lines terminatorLine).length := by
    intro hroom
    exact absurd (hroom 5 rfl) (by decide +kernel)
  obtain ⟨e, he⟩ := (Disk.putFile_of_file open_fullDisk).2 hfull
  have hcleared : Cleared [0x6F] (.ofList []) [] fullDisk
      (create [0x6F] (.ofList []) [] fullDisk).disk := .failed (create_of_refused he)
  obtain ⟨named, hnamed, -, -, -, hlaw⟩ :=
    clearing_takes_the_name open_fullDisk hfile (.ofList [])
  obtain rfl := hnamed.unique names_fullDisk
  have honly := (hlaw _ hcleared).1.mpr ⟨rfl, fun target ht => by cases ht⟩
  exact ⟨open_fullDisk, hfile, hcleared, honly, honly.kept [[0x6C]] _ (by decide) rfl⟩

/-- **A link is deleted and the corpus stays.** The corpus is created through the link `l` to
the file `o`. Its owner removes it and reports that it was deleted: the link is gone, and
`o` has the corpus. -/
theorem linkedDisk_uncleared : ∃ d₂,
    (create [0x6C] (.ofList []) [] Corpus.linkedDisk).result = .ok ⟨[0x6C]⟩ ∧
      remove ⟨[0x6C]⟩ [] (create [0x6C] (.ofList []) [] Corpus.linkedDisk).disk =
        (.deleted, d₂) ∧
      Corpus.linkedDisk.get [[0x6C]] = some (.link [0x6F]) ∧ d₂.get [[0x6C]] = none ∧
      ∃ mode, d₂.get [[0x6F]] =
        some (.file (fileBytes headerLine [] terminatorLine) mode) := by
  have hl : Disk.IsPlain [0x6C] := ⟨by decide, by decide, by decide⟩
  have hget : Corpus.linkedDisk.get [[0x6C]] = some (.link [0x6F]) := rfl
  have hwalk : Disk.walk Corpus.linkedDisk .never Disk.linkMax [] [[0x6C]] false =
      .ok (.name [] [0x6C] false) := Disk.walk_unfollowed rfl hl hget (by decide)
  have hnamed : Corpus.linkedDisk.Names [] [0x6C] [[0x6C]] :=
    ⟨[], [0x6C], rfl, Disk.resolve_eq_ok_iff.mpr ⟨⟨rfl, rfl, by decide⟩, hwalk⟩⟩
  obtain ⟨loc, d', hopen, hfile⟩ := Corpus.opensFile_linkedDisk
  obtain ⟨parent, n, rfl, hr, -⟩ := Disk.openForWriting_cases hopen
  obtain ⟨rfl, rfl, -⟩ :=
    Disk.Target.name.inj (Except.ok.inj (hr.symm.trans Corpus.resolve_linkedDisk))
  have hroom : ∀ n, Corpus.linkedDisk.HasRoom n := fun _ _ hr => by cases hr
  have hcreated :=
    (create_opens Corpus.opensFile_linkedDisk (.ofList [])).succeeds_iff.mpr (hroom _)
  have hdeleted := remove_of_create hnamed (.inr ⟨_, hget⟩) hopen hfile hcreated
  obtain ⟨hgone, ⟨content, mode, hstays, -, hcontent⟩, -⟩ :=
    link_gone hnamed hget (by decide) rfl hopen hfile (.removed hcreated (Prod.ext hdeleted rfl))
  refine ⟨_, hcreated, Prod.ext hdeleted rfl, hget, hgone, mode, ?_⟩
  rw [hstays, hcontent hcreated, LineFeed.lines_ofList]

end Scratch
end StressBench
