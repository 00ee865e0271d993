import RosBindings.Device
import RosBindings.Proofs.Growth

/-!
# New files are complete or gone

A device may break off in the middle of a write, with part of the file on it. That part is removed,
and nothing else is: an entry that was there is why the file is not created, and then nothing is
removed at all.

* `find_add`: a file added at the free place of a path is what the path leads to.
* `Device.writeNew_of_broken`: what a write that breaks off leaves behind.
* `Device.writeWhole_of_refused`, `writeWhole_of_whole` and `writeWhole_of_broken`: what becomes of
  a file that is not created, of one that is written to its end, and of one that is not.
-/

namespace RosBindings

namespace FileTree

variable {tree : FileTree} {p : Path} {l : Location} {content : ByteArray} {e : FileError}

/-! ## Entries that come and go -/

theorem fst_ne_of_lookup (h : tree.lookup l = none) : ∀ e ∈ tree.entries, e.1 ≠ l := by
  have hl : l ≠ [] := by
    rintro rfl
    rw [lookup_nil] at h
    cases h
  rw [lookup_of_ne _ hl, List.lookup_eq_none_iff] at h
  exact fun e he heq => bne_iff_ne.1 (h e he) heq.symm

theorem replace_add (h : tree.lookup l = none) (old new : Entry) :
    (tree.add l old).replace l new = tree.add l new := by
  have hkept : tree.entries.map (fun e => if e.1 = l then (l, new) else e) = tree.entries :=
    calc
      _ = tree.entries.map id :=
        List.map_congr_left fun e he => if_neg (fst_ne_of_lookup h e he)
      _ = tree.entries := List.map_id _
  simp only [replace, add, List.map_append, hkept, List.map_cons, List.map_nil, if_pos]

theorem erase_add (h : tree.lookup l = none) (entry : Entry) :
    (tree.add l entry).erase l = tree := by
  have hkept : tree.entries.filter (fun e => e.1 ≠ l) = tree.entries :=
    List.filter_eq_self.2 fun e he => decide_eq_true (fst_ne_of_lookup h e he)
  have hgone : [(l, entry)].filter (fun e => e.1 ≠ l) = [] :=
    List.filter_cons_of_neg (by simp)
  simp only [erase, add, List.filter_append, hkept, hgone, List.append_nil]

/-- **A file that is added where a path leads is found there.** -/
theorem find_add (hf : tree.find .kept p = .ok (.free l)) (content : ByteArray) :
    (tree.add l (.file content)).find .kept p = .ok (.taken l (.file content)) := by
  have hfree := lookup_of_find hf
  have hself : (tree.add l (.file content)).lookup l = some (.file content) :=
    lookup_add_self hfree
  have hgrows : Grows (fun _ => True) tree (tree.add l (.file content)) :=
    .add trivial hfree content
  have hspot := find_grows hgrows .kept p
  rw [hf] at hspot
  rcases hspot.of_free with hsame | ⟨-, content', hlookup, hnew⟩
  · -- it is not free any more
    rw [lookup_of_find hsame] at hself
    cases hself
  · rw [hself] at hlookup
    cases hlookup
    exact hnew

/-- So it can be removed, and then the tree is as it was. -/
theorem unlink_add (hf : tree.find .kept p = .ok (.free l)) (content : ByteArray) :
    (tree.add l (.file content)).unlink p = .ok tree := by
  rw [unlink, find_add hf]
  exact congrArg Except.ok (erase_add (lookup_of_find hf) _)

theorem openNew_of_free (hf : tree.find .kept p = .ok (.free l)) :
    tree.openNew p = .ok (l, tree.add l (.file .empty)) := by
  rw [openNew, hf]

/-! ## Files that are not created -/

theorem openNew_of_refused (h : tree.create p content = .error e) : tree.openNew p = .error e := by
  unfold create addNew at h
  unfold openNew
  cases hf : tree.find .kept p with
  | error cause => rw [hf] at h; exact congrArg Except.error (Except.error.inj h)
  | ok s =>
    rw [hf] at h
    cases s with
    | taken l entry => exact congrArg Except.error (Except.error.inj h)
    | free l => cases h

/-- Where no file is created for another reason than an entry at its path, there is none to remove:
either nothing is found, or the path leads nowhere as before. -/
theorem unlink_of_refused (h : tree.create p content = .error e) (he : e.cause ≠ .alreadyExists) :
    tree.unlink p = .ok tree ∨ tree.unlink p = .error e := by
  unfold create addNew at h
  unfold unlink
  cases hf : tree.find .kept p with
  | error cause =>
    rw [hf] at h
    cases h
    by_cases hc : cause = .notFound
    · exact .inl (if_pos hc)
    · exact .inr (if_neg hc)
  | ok s =>
    rw [hf] at h
    cases s with
    | taken l entry => cases h; exact absurd rfl he
    | free l => cases h

end FileTree

namespace Device

variable {device : Device} {files : FileTree} {p : Path} {l : Location} {content : ByteArray}

/-! ## Writes -/

theorem writeNew_of_whole (hf : files.find .kept p = .ok (.free l))
    (hb : device.breakdown? (files.add l (.file .empty)) p content = none) :
    device.writeNew files p content = (.ok (), files.add l (.file content)) := by
  rw [writeNew, FileTree.openNew_of_free hf]
  simp only [hb, FileTree.replace_add (FileTree.lookup_of_find hf)]

/-- **A write that breaks off leaves part of the file behind.** -/
theorem writeNew_of_broken {broken : Breakdown} (hf : files.find .kept p = .ok (.free l))
    (hb : device.breakdown? (files.add l (.file .empty)) p content = some broken) :
    device.writeNew files p content =
      (.error broken.failure, files.add l (.file (content.extract 0 broken.written))) := by
  rw [writeNew, FileTree.openNew_of_free hf]
  simp only [hb, FileTree.replace_add (FileTree.lookup_of_find hf)]

theorem writeNew_of_refused {e : FileError} (h : files.create p content = .error e) :
    device.writeNew files p content = (.error (.file e), files) := by
  rw [writeNew, FileTree.openNew_of_refused h]

theorem writeWhole_of_whole (hf : files.find .kept p = .ok (.free l))
    (hb : device.breakdown? (files.add l (.file .empty)) p content = none) :
    device.writeWhole files p content = (.ok (), files.add l (.file content)) := by
  rw [writeWhole, writeNew_of_whole hf hb]

/-- **What was left behind is removed**, and the files are as they were. -/
theorem writeWhole_of_broken {broken : Breakdown} (hf : files.find .kept p = .ok (.free l))
    (hb : device.breakdown? (files.add l (.file .empty)) p content = some broken) :
    device.writeWhole files p content = (.error broken.failure, files) := by
  rw [writeWhole, writeNew_of_broken hf hb]
  simp only [broken.isOpen, FileTree.unlink_add hf]
  rfl

/-- **A file that is not created removes nothing.** -/
theorem writeWhole_of_refused {e : FileError} (h : files.create p content = .error e) :
    device.writeWhole files p content = (.error (.file e), files) := by
  rw [writeWhole, writeNew_of_refused h]
  simp only
  cases hs : (Failure.file e).saysExists with
  | true => rw [if_pos rfl]
  | false =>
    have he : e.cause ≠ .alreadyExists := by simpa [Failure.saysExists] using hs
    rw [if_neg Bool.false_ne_true]
    rcases FileTree.unlink_of_refused h he with hunlink | hunlink <;> rw [hunlink]

end Device

end RosBindings
