import RosBindings.Proofs.OutputFolder

/-!
# What is listed and what is opened

A listing gives identifiers, and an identifier is all that is left of an entry or of a line when
its definition is read. In a folder the extension is taken off a name and put back again; the
tools print more than messages.

* `definitionFile_listedAs`: the file that is opened for what a name was listed as.
* `nodup_listed_iff`: when two names are listed alike.
* `listing_opens_entries`: the files that are opened are the entries that were listed, unless one
  of them is named by the extension alone.
* `listing_keeps_messages`: the tools' lines that are listed are the messages of the package, and
  those that only look like messages.
-/

namespace RosBindings

open Naming (extension)

theorem Text.decode?_encode (t : Text) : decode? (encode t) = some t := by
  rw [decode?, encode, String.toUTF8_eq_toByteArray, String.toByteArray_ofList,
    List.utf8Decode?_utf8Encode, Option.map_some]

/-! ## Entries of a folder -/

namespace FileTree

variable {tree : FileTree} {p : Path} {l : Location} {name : Text} {entry : Entry}

/-- All names are such as a file system can have. -/
def WellNamed (tree : FileTree) : Prop :=
  ∀ e ∈ tree.entries, ∀ name ∈ e.1,
    '/' ∉ name ∧ Char.ofNat 0 ∉ name ∧ Text.byteLength name ≤ maxName

theorem WellNamed.of_lookup (h : tree.WellNamed) (hl : tree.lookup (l ++ [name]) = some entry) :
    '/' ∉ name ∧ Char.ofNat 0 ∉ name ∧ Text.byteLength name ≤ maxName := by
  rw [lookup_of_ne _ (by simp)] at hl
  obtain ⟨before, after, hentries, -⟩ := List.lookup_eq_some_iff.1 hl
  refine h (l ++ [name], entry) ?_ name (by simp)
  rw [hentries]
  simp

theorem isFollowed_entry (h : IsFollowed p.text) (hne : name ≠ []) (hnul : Char.ofNat 0 ∉ name)
    (hshort : Text.byteLength (p.entry name).text ≤ maxPath) : IsFollowed (p.entry name).text := by
  obtain ⟨before, htext, hbefore⟩ := p.text_entry name
  refine ⟨?_, by simp [htext, hne], hshort⟩
  rw [htext, List.mem_append, not_or]
  refine ⟨?_, hnul⟩
  rcases hbefore with ⟨-, rfl⟩ | rfl | rfl
  · exact List.not_mem_nil
  · exact h.nul
  · rw [List.mem_append, not_or]
    exact ⟨h.nul, by decide⟩

/-- **The path of an entry leads to it**, unless it gets too long. -/
theorem WellNamed.find_entry (h : tree.WellNamed)
    (hfind : tree.find .followed p = .ok (.taken l .folder)) (hn : namesEntry name = true)
    (hl : tree.lookup (l ++ [name]) = some entry)
    (hshort : Text.byteLength (p.entry name).text ≤ maxPath) :
    tree.find .kept (p.entry name) = .ok (.taken (l ++ [name]) entry) := by
  obtain ⟨-, hnul, hlength⟩ := h.of_lookup hl
  have hfollowed := isFollowed_entry (isFollowed_of_find hfind) (namesEntry_iff.1 hn).1 hnul hshort
  have hkept : LastLink.kept ≠ .written := by decide
  rcases find_entry_cases hfind hn hkept with ⟨hnot, -⟩ | ⟨follow, hentry⟩
  · exact absurd hfollowed hnot
  · rw [hentry, walkWith_name hn (.inl rfl), spotIn, if_neg (Nat.not_lt.2 hlength), hl]

end FileTree

/-! ## Definitions in a folder -/

namespace Source

variable {d : Dialect} {root : Path} {w : World} {package name : Text} {files : FileTree}
  {location : Location}

/-- The names of the definition files in a folder. -/
def definitionNames (files : FileTree) (location : Location) : List Text :=
  (files.namesAt location).filter fun name => extension.isSuffixOf name

/-- What the name of a file is listed as. -/
def listedAs (d : Dialect) (package name : Text) : Text :=
  Text.join ['/'] (packageSegments d package ++ [stem name])

/-- The name of the file that is opened for it. A name without a stem counts as one, and gets the
extension a second time. -/
def openedAs (name : Text) : Text := if name = extension then extension ++ extension else name

/-! ### Names -/

theorem mem_definitionNames_iff : name ∈ definitionNames files location ↔
    extension <:+ name ∧ ∃ entry, files.lookup (location ++ [name]) = some entry := by
  rw [definitionNames, List.mem_filter, FileTree.mem_namesAt_iff, List.isSuffixOf_iff_suffix,
    and_comm]

theorem pairwise_definitionNames (files : FileTree) (location : Location) :
    (definitionNames files location).Pairwise (· < ·) := (Text.pairwise_sortedSet _).filter _

theorem nodup_definitionNames (files : FileTree) (location : Location) :
    (definitionNames files location).Nodup := by
  refine (pairwise_definitionNames files location).imp ?_
  rintro a b hlt rfl
  exact List.lt_irrefl _ hlt

theorem namesEntry_of_suffix (h : extension <:+ name) : FileTree.namesEntry name = true := by
  obtain ⟨before, rfl⟩ := h
  exact isExtension_msg.namesEntry before

theorem stem_append_extension (h : extension <:+ name) : stem name ++ extension = openedAs name := by
  obtain ⟨before, rfl⟩ := h
  have hcut : Text.beforeSuffix? extension (before ++ extension) = some before := by
    rw [Text.beforeSuffix?, List.isSuffixOf?_eq_some_iff_append_eq]
  rw [stem, hcut]
  cases before with
  | nil => rfl
  | cons c cs =>
    have hne : c :: cs ++ extension ≠ extension := by
      intro heq
      have hlength := congrArg List.length heq
      simp only [List.length_append, List.length_cons] at hlength
      omega
    rw [openedAs, if_neg hne]

theorem openedAs_eq_self_iff : openedAs name = name ↔ name ≠ extension := by
  constructor
  · rintro hopened rfl
    exact absurd hopened (by decide)
  · intro hne
    rw [openedAs, if_neg hne]

/-- One file is opened for two names only if these are the extension alone and the extension
twice. -/
theorem openedAs_inj {a b : Text} (h : openedAs a = openedAs b) :
    a = b ∨ (a = extension ∧ b = extension ++ extension) ∨
      (a = extension ++ extension ∧ b = extension) := by
  unfold openedAs at h
  split_ifs at h with ha hb hb
  · exact .inl (ha.trans hb.symm)
  · exact .inr (.inl ⟨ha, h.symm⟩)
  · exact .inr (.inr ⟨h, hb⟩)
  · exact .inl h

theorem isName_openedAs (h : extension <:+ name) (hslash : '/' ∉ name) :
    Path.IsName (openedAs name) := by
  have hsuffix : extension <:+ openedAs name := by
    rw [← stem_append_extension h]
    exact List.suffix_append _ _
  obtain ⟨hnil, hself, -⟩ := FileTree.namesEntry_iff.1 (namesEntry_of_suffix hsuffix)
  refine ⟨hnil, hself, ?_⟩
  unfold openedAs
  split
  · decide
  · exact hslash

theorem isName_of_mem_packageSegments {segment : Text} (h : segment ∈ packageSegments d package) :
    Path.IsName segment := by
  rcases List.mem_append.1 h with h | h
  · exact Path.isName_of_mem_segmentsOf h
  · cases d with
    | ros1 => cases h
    | ros2 =>
      rw [List.mem_singleton.1 h]
      exact ⟨by decide, by decide, by decide⟩

/-! ### Listings -/

/-- **What is opened for what was listed.** -/
theorem definitionFile_listedAs (hw : files.WellNamed) (h : name ∈ definitionNames files location)
    (root : Path) :
    definitionFile root (listedAs d package name) =
      (packageFolder d root package).entry (openedAs name) := by
  obtain ⟨hext, entry, hl⟩ := mem_definitionNames_iff.1 h
  have hslash := (hw.of_lookup hl).1
  have hjoin : listedAs d package name ++ extension =
      Text.join ['/'] (packageSegments d package ++ [openedAs name]) := by
    rw [listedAs, Text.join_concat, Text.join_concat, List.append_assoc,
      stem_append_extension hext]
  have hnames : ∀ segment ∈ packageSegments d package ++ [openedAs name], Path.IsName segment :=
    List.forall_mem_append.2 ⟨fun segment => isName_of_mem_packageSegments,
      List.forall_mem_singleton.2 (isName_openedAs hext hslash)⟩
  rw [definitionFile, hjoin, root.join_names hnames, packageFolder, Path.entry]
  simp only [List.append_assoc]

/-- **Names are listed apart**, but for the extension alone and the extension twice. -/
theorem nodup_listed_iff (hw : files.WellNamed) :
    ((definitionNames files location).map (listedAs d package)).Nodup ↔
      ¬ (extension ∈ definitionNames files location ∧
        extension ++ extension ∈ definitionNames files location) := by
  constructor
  · rintro hids ⟨honce, htwice⟩
    have hsame : listedAs d package extension = listedAs d package (extension ++ extension) := by
      have hstem : stem extension = stem (extension ++ extension) := by decide
      rw [listedAs, listedAs, hstem]
    exact absurd (List.inj_on_of_nodup_map hids honce htwice hsame) (by decide)
  · intro hnot
    refine (nodup_definitionNames files location).map_on fun a ha b hb hsame => ?_
    -- names that are listed alike are opened alike, from any root
    have hfile := congrArg (definitionFile ⟨.here, []⟩) hsame
    rw [definitionFile_listedAs hw ha, definitionFile_listedAs hw hb, Path.entry_inj] at hfile
    rcases openedAs_inj hfile with hab | ⟨rfl, rfl⟩ | ⟨rfl, rfl⟩
    · exact hab
    · exact absurd ⟨ha, hb⟩ hnot
    · exact absurd ⟨hb, ha⟩ hnot

/-- **A folder is listed** if the path of the package leads to one. -/
theorem list_folder_iff {ids : List Text} :
    ((folder d root).list w package).outcome = .ok ids ↔
      ∃ location, w.files.find .followed (packageFolder d root package) =
          .ok (.taken location .folder) ∧
        ids = (definitionNames w.files location).map (listedAs d package) := by
  have hlist : ((folder d root).list w package).outcome =
      ((folder d root).isPackage w package).outcome >>= fun b =>
        if b then .ok (((w.files.names (packageFolder d root package)).filter fun name =>
          extension.isSuffixOf name).map (listedAs d package))
        else .error (.source (.noPackage (packageFolder d root package))) := by
    rw [list, Traced.outcome_bind]
    congr 1
    funext b
    cases b <;> rfl
  rw [hlist, isPackage]
  constructor
  · intro h
    cases hfolder : w.files.isFolder (packageFolder d root package) with
    | error e =>
      rw [hfolder] at h
      cases h
    | ok b =>
      rw [hfolder] at h
      cases b with
      | false => cases h
      | true =>
        obtain ⟨location, hfind⟩ := FileTree.isFolder_iff.1 hfolder
        refine ⟨location, hfind, ?_⟩
        rw [FileTree.names, hfind] at h
        cases h
        rfl
  · rintro ⟨location, hfind, rfl⟩
    rw [FileTree.isFolder_iff.2 ⟨location, hfind⟩, FileTree.names, hfind]
    rfl

/-- The file that the lines and the checksum of a definition are taken from. -/
structure Opens (d : Dialect) (root : Path) (w : World) (identifier : Text) (file : Path) :
    Prop where
  path : definitionFile root identifier = file
  lines : (folder d root).readLines w identifier = .ofExcept (fileLines w.files file)
  checksum : (folder d root).checksum w identifier =
    if d.hasChecksum then .ofExcept ((fileDigest w.files file).map some) else pure none

theorem opens_iff {identifier : Text} {file : Path} :
    Opens d root w identifier file ↔ definitionFile root identifier = file := by
  refine ⟨Opens.path, ?_⟩
  rintro rfl
  exact ⟨rfl, rfl, rfl⟩

/-- **What is opened are the entries that were listed**, unless one is named by the extension
alone. A listing has one identifier for each entry of the package's folder whose name ends in the
extension, in the order of their paths. The path of such an entry leads to it, unless it is too
long. For an identifier the file of this path is opened, but for an entry named by the extension
alone it is the one named by the extension twice. So two identifiers are the same only if entries
have both of these names, and the files that are opened are the ones that were listed exactly if no
entry is named by the extension alone. -/
theorem listing_opens_entries {ids : List Text} (hw : w.files.WellNamed)
    (hlist : ((folder d root).list w package).outcome = .ok ids) :
    let folder := packageFolder d root package
    ∃ location names,
      w.files.find .followed folder = .ok (.taken location .folder) ∧
      (names.map fun name => (folder.entry name).segments).Pairwise (· < ·) ∧
      (∀ name, name ∈ names ↔
        extension <:+ name ∧ ∃ entry, w.files.lookup (location ++ [name]) = some entry) ∧
      (∀ name ∈ names, Text.byteLength (folder.entry name).text ≤ FileTree.maxPath →
        ∃ entry, w.files.find .kept (folder.entry name) =
          .ok (.taken (location ++ [name]) entry)) ∧
      List.Forall₂ (fun name id => Opens d root w id (folder.entry (openedAs name))) names ids ∧
      (ids.Nodup ↔ ¬ (extension ∈ names ∧ extension ++ extension ∈ names)) ∧
      ((ids.Nodup ∧
        List.Forall₂ (fun name id => Opens d root w id (folder.entry name)) names ids) ↔
          extension ∉ names) := by
  intro folder
  obtain ⟨location, hfind, rfl⟩ := list_folder_iff.1 hlist
  have hone : ∀ R : Text → Text → Prop,
      List.Forall₂ R (definitionNames w.files location)
          ((definitionNames w.files location).map (listedAs d package)) ↔
        ∀ name ∈ definitionNames w.files location, R name (listedAs d package name) := by
    intro R
    rw [List.forall₂_map_right_iff, List.forall₂_same]
  have hopens : ∀ name ∈ definitionNames w.files location, ∀ file,
      Opens d root w (listedAs d package name) file ↔ folder.entry (openedAs name) = file := by
    intro name hname file
    rw [opens_iff, definitionFile_listedAs hw hname]
  refine ⟨location, definitionNames w.files location, hfind, ?_, fun name => mem_definitionNames_iff,
    ?_, ?_, nodup_listed_iff hw, ?_⟩
  · rw [List.pairwise_map]
    refine (pairwise_definitionNames _ _).imp fun hlt => List.append_left_lt ?_
    exact List.cons_lt_cons_iff.2 (.inl hlt)
  · intro name hname hshort
    obtain ⟨hext, entry, hl⟩ := mem_definitionNames_iff.1 hname
    exact ⟨entry, hw.find_entry hfind (namesEntry_of_suffix hext) hl hshort⟩
  · rw [hone]
    exact fun name hname => (hopens name hname _).2 rfl
  · rw [hone, nodup_listed_iff hw]
    constructor
    · rintro ⟨-, hall⟩ hin
      have hself := Path.entry_inj.1 ((hopens extension hin _).1 (hall extension hin))
      exact openedAs_eq_self_iff.1 hself rfl
    · intro hnot
      refine ⟨fun hboth => hnot hboth.1, fun name hname => (hopens name hname _).2 ?_⟩
      rw [openedAs_eq_self_iff.2]
      rintro rfl
      exact hnot hname

/-- A file named by the extension alone is listed as the one named by the extension twice. -/
theorem listing_opens_entries_nameless :
    let files : FileTree :=
      ⟨[], [(["msgs"], .folder), (["msgs", "p"], .folder), (["msgs", "p", "A.b.msg"], .folder),
        (["msgs", "p", ".msg"], .file .empty), (["msgs", "p", ".msg.msg"], .file .empty)]⟩
    let root := Path.ofText "msgs"
    files.WellNamed ∧
      ((folder .ros1 root).list { files } "p").outcome = .ok ["p/.msg", "p/.msg", "p/A.b"] ∧
      ∃ names, extension ∈ names ∧ extension ++ extension ∈ names ∧
        List.Forall₂ (fun name id => Opens .ros1 root { files } id
          ((packageFolder .ros1 root "p").entry (openedAs name)))
          names ["p/.msg", "p/.msg", "p/A.b"] := by
  intro files root
  have hw : files.WellNamed := by
    unfold FileTree.WellNamed
    decide +kernel
  have hlist : ((folder .ros1 root).list { files } "p").outcome =
      .ok ["p/.msg", "p/.msg", "p/A.b"] := by
    rfl
  obtain ⟨location, names, -, -, -, -, hopens, hnodup, -⟩ := listing_opens_entries hw hlist
  have hboth := not_not.1 (mt hnodup.2 (by decide +kernel))
  exact ⟨hw, hlist, names, hboth.1, hboth.2, hopens⟩

/-! ## Messages among the lines of a tool -/

/-- Whether a line is a message of a package. -/
def isMessageOf (package line : Text) : Bool := (package ++ "/msg/").isPrefixOf line

/-- Whether a line only starts like the messages of a package. -/
def isStrayOf (package line : Text) : Bool :=
  (package ++ "/msg").isPrefixOf line && !isMessageOf package line

/-- The lines of an output, without the blanks around them. -/
def trimmedLines (output : Text) : List Text := (Text.lines output).map Text.trim

theorem isMessageOf_iff {line : Text} :
    isMessageOf package line = true ↔ ∃ rest, line = package ++ "/msg/" ++ rest := by
  rw [isMessageOf, List.isPrefixOf_iff_prefix]
  constructor
  · rintro ⟨rest, rfl⟩
    exact ⟨rest, rfl⟩
  · rintro ⟨rest, rfl⟩
    exact List.prefix_append _ _

theorem isPrefixOf_msg (package line : Text) :
    (package ++ "/msg").isPrefixOf line = (isMessageOf package line || isStrayOf package line) := by
  have hkept : isMessageOf package line = true → (package ++ "/msg").isPrefixOf line = true := by
    rw [isMessageOf, List.isPrefixOf_iff_prefix, List.isPrefixOf_iff_prefix]
    refine fun h => .trans ⟨['/'], ?_⟩ h
    rw [List.append_assoc]
    rfl
  unfold isStrayOf
  cases hmessage : isMessageOf package line with
  | true => exact hkept hmessage
  | false => simp

/-- What is asked for the packages. -/
def packagesCommand : List Text := ["ros2", "interface", "packages"]

/-- What is asked for the contents of a package. -/
def contentsCommand (package : Text) : List Text := ["ros2", "interface", "package", package]

theorem call_of_printed {command : List Text} {output : Text}
    (h : w.tools.lookup command = some (.printed output)) :
    (w.tools.call command).outcome = .ok (Text.lines output) := by
  simp only [ToolTable.call, h, Reply.printed, Reply.content, Text.decode?_encode]

/-- **The lines that are listed** start like messages of the package, and need not be any. -/
theorem list_tools {packages output : Text}
    (hpackages : w.tools.lookup packagesCommand = some (.printed packages))
    (hin : package ∈ Text.lines packages)
    (houtput : w.tools.lookup (contentsCommand package) = some (.printed output)) :
    ((tools .ros2).list w package).outcome = .ok ((trimmedLines output).filter fun line =>
      isMessageOf package line || isStrayOf package line) := by
  have hpackage : ((tools .ros2).isPackage w package).outcome = .ok true := by
    have hcontains : (Text.lines packages).contains package = true := List.contains_iff_mem.2 hin
    rw [isPackage, Traced.outcome_bind, ← packagesCommand, call_of_printed hpackages]
    exact congrArg Except.ok hcontains
  rw [list, Traced.outcome_bind, hpackage]
  change (w.tools.call (contentsCommand package) >>= fun lines => pure
    ((lines.map Text.trim).filter fun line => (package ++ "/msg").isPrefixOf line)).outcome = _
  rw [Traced.outcome_bind, call_of_printed houtput]
  simp only [isPrefixOf_msg]
  rfl

/-- **The tools' listing keeps the messages of a package**, each as often and in the order they are
printed, and with them the lines that only start like messages. What is listed are the messages
exactly if there are no such lines, and so it is only then that all of it lies in the messages of
the package. -/
theorem listing_keeps_messages {packages output : Text}
    (hpackages : w.tools.lookup packagesCommand = some (.printed packages))
    (hin : package ∈ Text.lines packages)
    (houtput : w.tools.lookup (contentsCommand package) = some (.printed output)) :
    let lines := trimmedLines output
    let messages := lines.filter (isMessageOf package)
    let strays := lines.filter (isStrayOf package)
    ∃ ids, ((tools .ros2).list w package).outcome = .ok ids ∧
      ids = lines.filter (fun line => isMessageOf package line || isStrayOf package line) ∧
      ids.filter (isMessageOf package) = messages ∧
      (ids = messages ↔ strays = []) ∧
      ((∀ id ∈ ids, ∃ rest, id = package ++ "/msg/" ++ rest) ↔ strays = []) := by
  intro lines messages strays
  refine ⟨_, list_tools hpackages hin houtput, rfl, ?_⟩
  generalize hids : (trimmedLines output).filter (fun line =>
    isMessageOf package line || isStrayOf package line) = ids
  have hmessages : ids.filter (isMessageOf package) = messages := by
    rw [← hids, List.filter_filter]
    refine List.filter_congr fun line _ => ?_
    cases isMessageOf package line <;> simp
  have hstrays : ids.filter (fun id => !isMessageOf package id) = strays := by
    rw [← hids, List.filter_filter]
    refine List.filter_congr fun line _ => ?_
    unfold isStrayOf
    cases isMessageOf package line <;> simp
  -- there are no strays if asking for messages drops nothing
  have hall : strays = [] ↔ ∀ id ∈ ids, isMessageOf package id = true := by
    rw [← hstrays, List.filter_eq_nil_iff]
    simp
  refine ⟨hmessages, ?_, ?_⟩
  · rw [hall, ← hmessages, eq_comm, List.filter_eq_self]
  · rw [hall]
    simp only [isMessageOf_iff]

/-- Another family of interfaces, and a neighbour whose name starts alike. -/
theorem listing_keeps_messages_neighbour :
    let tools : ToolTable :=
      [(packagesCommand, .printed "o\np\n"),
        (contentsCommand "p", .printed "  p/msg/A\np/srv/C\np/msgs/B\np/msg/A")]
    let w : World := { files := ⟨[], []⟩, tools }
    ∃ ids, ((Source.tools .ros2).list w "p").outcome = .ok ids ∧
      ids = ["p/msg/A", "p/msgs/B", "p/msg/A"] ∧
      ids.filter (isMessageOf "p") = ["p/msg/A", "p/msg/A"] ∧
      ids ≠ (trimmedLines "  p/msg/A\np/srv/C\np/msgs/B\np/msg/A").filter (isMessageOf "p") := by
  intro tools w
  have hpackages : w.tools.lookup packagesCommand = some (.printed "o\np\n") := rfl
  have hin : ("p" : Text) ∈ Text.lines "o\np\n" := by decide +kernel
  have houtput : w.tools.lookup (contentsCommand "p") =
      some (.printed "  p/msg/A\np/srv/C\np/msgs/B\np/msg/A") := rfl
  obtain ⟨ids, hlist, hids, hmessages, hexact, -⟩ := listing_keeps_messages hpackages hin houtput
  exact ⟨ids, hlist, hids.trans (by decide +kernel), hmessages.trans (by decide +kernel),
    fun heq => absurd (hexact.1 heq) (by decide +kernel)⟩

end Source

end RosBindings
