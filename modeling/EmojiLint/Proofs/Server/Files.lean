import EmojiLint.Proofs.Disk.Tree
import EmojiLint.Proofs.Project.Clean
import EmojiLint.Proofs.Server.Edits

/-!
# What a command does to files

Removing the emoji of some files leaves open documents to the editor and rewrites the other files.
A document is open under the text of its URI, and a file is rewritten where the path of its URI
leads.  Two texts can name one path, as when a letter is escaped in one of them, so a document can
be open while its file is rewritten.

* `Disk.cleanAll` — paths cleaned one after the other.
* `node?_cleanAll_iff` — which files are left as they are.
* `Server.written?` — the path that is rewritten for a URI.
* `Server.removeFromFiles_spares` — which files a command spares, and which edits it asks for.
-/

set_option autoImplicit false

namespace EmojiLint
namespace Disk

variable {disk disk' : Disk} {p q : Path} {paths : List Path} {loc : Location} {node : Node}
  {text : String} {permissions : Permissions}

/-! ## Cleaning paths one after the other -/

/-- Clean some paths one after the other. -/
def cleanAll (disk : Disk) (paths : List Path) : Disk :=
  paths.foldl (fun disk p => (disk.clean p).2) disk

/-- No link stands at the end of a path, if it leads to anything. -/
def EndsPlain (disk : Disk) (p : Path) : Prop :=
  ∀ loc node, disk.find p = .ok (loc, node) → disk.IsPlain p loc

/-- What a path leads to does not depend on what files hold. -/
theorem Alike.endsPlain (h : Alike disk disk') (hp : disk.EndsPlain p) : disk'.EndsPlain p := by
  intro loc node hfind'
  cases hfind : disk.find p with
  | error e =>
    rw [h.find_error hfind] at hfind'
    cases hfind'
  | ok found =>
    obtain ⟨loc', node'⟩ := found
    obtain ⟨⟨content, permissions, hfile⟩, hslot⟩ := hp loc' node' hfind
    obtain ⟨node'', hfind'', -, hshape⟩ := h.find_ok hfile
    rw [hfind'', Except.ok.injEq, Prod.mk.injEq] at hfind'
    obtain ⟨rfl, rfl⟩ := hfind'
    refine ⟨?_, fun folder name hname => hslot folder name (h.slot p ▸ hname)⟩
    cases node'' with
    | file content' permissions' => exact ⟨content', permissions', hfind''⟩
    | folder | link => cases hshape

/-- Cleaning a path leaves the disk as it is, or the file without its emoji. -/
theorem clean_of_endsPlain (hp : disk.EndsPlain p) :
    (∀ text, ¬ disk.Cleans p text) ∧ (disk.clean p).2 = disk ∨
      ∃ loc text permissions, disk.Cleans p text ∧
        disk.find p = .ok (loc, .file text.toUTF8 permissions) ∧
        (disk.clean p).2 = disk.set loc (.file (Emoji.remove text).toUTF8 permissions) :=
  ((Alike.refl disk).clean rfl (fun _ _ hfind => node?_of_find hfind) hp).2

/-- Where the same is stored, the same is found. -/
theorem Alike.find_eq_ok_iff (h : Alike disk disk') (hnode : disk'.node? loc = disk.node? loc) :
    disk'.find p = .ok (loc, node) ↔ disk.find p = .ok (loc, node) := by
  cases hfind : disk.find p with
  | error e => rw [h.find_error hfind]
  | ok found =>
    obtain ⟨loc', node'⟩ := found
    obtain ⟨node'', hfind', hnode', -⟩ := h.find_ok hfind
    rw [hfind', Except.ok.injEq, Except.ok.injEq, Prod.mk.injEq, Prod.mk.injEq]
    refine and_congr_right fun hloc => ?_
    rw [hloc, hnode, ← hloc, node?_of_find hfind, Option.some_inj] at hnode'
    rw [hnode']

/-- Where the same is stored, the same comes of a path that leads there. -/
theorem Alike.cleans_iff (h : Alike disk disk') (hrefusal : disk'.refusal = disk.refusal)
    (hp : disk.EndsPlain p) (hfind : disk.find p = .ok (loc, node))
    (hnode : disk'.node? loc = disk.node? loc) :
    (∃ text, disk'.Cleans p text) ↔ ∃ text, disk.Cleans p text := by
  have hsame : ∀ loc node, disk.find p = .ok (loc, node) → disk'.node? loc = some node := by
    intro loc' node' hfind'
    rw [hfind, Except.ok.injEq, Prod.mk.injEq] at hfind'
    obtain ⟨rfl, rfl⟩ := hfind'
    rw [hnode]
    exact node?_of_find hfind
  rw [← clean_eq_ok_true_iff, ← clean_eq_ok_true_iff, (h.clean hrefusal hsame hp).1]

/-- A text file keeps its permissions, and its text becomes no longer. -/
theorem exists_node?_cleanAll (hpaths : ∀ p ∈ paths, disk.EndsPlain p)
    (hnode : disk.node? loc = some (.file text.toUTF8 permissions)) :
    ∃ text' : String, (disk.cleanAll paths).node? loc = some (.file text'.toUTF8 permissions) ∧
      text'.toList.length ≤ text.toList.length := by
  induction paths generalizing disk text with
  | nil => exact ⟨text, hnode, Nat.le_refl _⟩
  | cons p paths ih =>
    obtain ⟨hp, hpaths⟩ := List.forall_mem_cons.1 hpaths
    rw [cleanAll, List.foldl_cons, ← cleanAll]
    obtain ⟨-, hclean⟩ | ⟨loc', other, permissions', hcleans, hfind, hclean⟩ :=
      clean_of_endsPlain hp
    · rw [hclean]
      exact ih hpaths hnode
    · have hfile := node?_of_find hfind
      have hne := ne_nil_of_file hfile
      have hplain : ∀ q ∈ paths, (disk.set loc'
          (.file (Emoji.remove other).toUTF8 permissions')).EndsPlain q :=
        fun q hq => (alike_set hfile).endsPlain (hpaths q hq)
      rw [hclean]
      by_cases hloc : loc = loc'
      · subst hloc
        rw [hfile, Option.some_inj, Node.file.injEq] at hnode
        obtain ⟨htext, rfl⟩ := hnode
        obtain rfl : other = text := String.toByteArray_inj.1 htext
        obtain ⟨text', hnode', hlength⟩ := ih hplain (by rw [node?_set hne, if_pos rfl])
        exact ⟨text', hnode', hlength.trans (Emoji.sublist_remove other).length_le⟩
      · exact ih hplain (by rw [node?_set hne, if_neg hloc, hnode])

/-- **What is stored somewhere stays as it is when no path that leads there is cleaned.** -/
theorem node?_cleanAll_iff (hpaths : ∀ p ∈ paths, disk.EndsPlain p) :
    (disk.cleanAll paths).node? loc = disk.node? loc ↔
      ∀ p ∈ paths, ∀ node, disk.find p = .ok (loc, node) → ¬ ∃ text, disk.Cleans p text := by
  induction paths generalizing disk with
  | nil => exact iff_of_true rfl (List.forall_mem_nil _)
  | cons p paths ih =>
    obtain ⟨hp, hpaths⟩ := List.forall_mem_cons.1 hpaths
    rw [cleanAll, List.foldl_cons, ← cleanAll, List.forall_mem_cons]
    obtain ⟨hkept, hclean⟩ | ⟨loc', text, permissions, hcleans, hfind, hclean⟩ :=
      clean_of_endsPlain hp
    · rw [hclean, ih hpaths, and_iff_right]
      rintro node - ⟨text, hcleans⟩
      exact hkept text hcleans
    · have hfile := node?_of_find hfind
      have hne := ne_nil_of_file hfile
      have halike : Alike disk (disk.set loc' (.file (Emoji.remove text).toUTF8 permissions)) :=
        alike_set hfile
      have hplain := fun q hq => halike.endsPlain (hpaths q hq)
      rw [hclean]
      by_cases hloc : loc = loc'
      · -- The file that was rewritten is shorter, and stays so.
        subst hloc
        refine iff_of_false (fun hsame => ?_) fun hall => hall.1 _ hfind ⟨text, hcleans⟩
        obtain ⟨text', hnode', hlength⟩ := exists_node?_cleanAll hplain
          (by rw [node?_set hne, if_pos rfl])
        rw [hsame, hfile, Option.some_inj, Node.file.injEq] at hnode'
        obtain rfl : text = text' := String.toByteArray_inj.1 hnode'.1
        exact absurd hlength (Nat.not_le.2 (Emoji.length_remove_lt hcleans.2.1))
      · have hnode : (disk.set loc' (.file (Emoji.remove text).toUTF8 permissions)).node? loc =
            disk.node? loc := by rw [node?_set hne, if_neg hloc]
        rw [← hnode, ih hplain, and_iff_right]
        · refine forall₃_congr fun q hq node => ?_
          rw [halike.find_eq_ok_iff hnode]
          refine forall_congr' fun hfind' => not_congr ?_
          exact halike.cleans_iff rfl (hpaths q hq) hfind' hnode
        · intro node hfind' _
          rw [hfind, Except.ok.injEq, Prod.mk.injEq] at hfind'
          exact hloc hfind'.1.symm

end Disk

namespace Server

variable {server : Server} {ws : Workspace} {disk : Disk} {client : Client} {uri : Uri}
  {uris : List Uri} {arguments : List Json} {removal : Removal} {edit : DocumentEdit}

/-! ## Files that are not open -/

/-- The path that is rewritten for a URI, unless a document is open under its text. -/
def written? (ws : Workspace) (uri : Uri) : Option Path :=
  if ws.isOpen uri.text then none else uri.path?

theorem disk_foldl_add : (uris.foldl (Removal.add client ws) removal).disk =
    removal.disk.cleanAll (uris.filterMap (written? ws)) := by
  induction uris generalizing removal with
  | nil => rfl
  | cons uri uris ih =>
    rw [List.foldl_cons, ih, List.filterMap_cons, written?, Removal.add]
    split
    · cases removalEdit? ws uri.text <;> rfl
    · cases uri.path? <;> rfl

/-- **What a command leaves on the disk**: the paths of what is not open are cleaned. -/
theorem disk_removeFromFiles : (server.execute disk client .removeFromFiles arguments).2.1 =
    disk.cleanAll ((uriArguments Command.removeFromFiles.schemes arguments).filterMap
      (written? server.workspace)) := by
  cases huris : uriArguments Command.removeFromFiles.schemes arguments with
  | nil =>
    simp only [execute, huris]
    rfl
  | cons uri more =>
    simp only [execute, huris]
    exact disk_foldl_add

/-! ## Documents that are open -/

theorem removalEdit?_eq_none_of_not_isOpen (h : ws.isOpen uri.text = false) :
    removalEdit? ws uri.text = none := by
  rw [Workspace.isOpen, Option.isSome_eq_false_iff, Option.isNone_iff_eq_none] at h
  rw [removalEdit?, h]
  rfl

theorem notices_foldl_add : (uris.foldl (Removal.add client ws) removal).notices =
    removal.notices ++ (uris.filterMap fun uri => removalEdit? ws uri.text).map .applyEdit := by
  induction uris generalizing removal with
  | nil => exact (List.append_nil _).symm
  | cons uri uris ih =>
    rw [List.foldl_cons, ih, List.filterMap_cons, Removal.add]
    split
    · cases removalEdit? ws uri.text with
      | none => rfl
      | some edit => exact List.append_assoc ..
    · next hclosed =>
      rw [removalEdit?_eq_none_of_not_isOpen (Bool.eq_false_iff.2 hclosed)]
      cases uri.path? <;> rfl

/-- **The edits that a command asks for** are those of the open documents that are named. -/
theorem applyEdit_mem_removeFromFiles_iff :
    .applyEdit edit ∈ (server.execute disk client .removeFromFiles arguments).2.2 ↔
      ∃ uri ∈ uriArguments Command.removeFromFiles.schemes arguments,
        removalEdit? server.workspace uri.text = some edit := by
  cases huris : uriArguments Command.removeFromFiles.schemes arguments with
  | nil =>
    simp only [execute, huris]
    exact iff_of_false List.not_mem_nil (by rintro ⟨_, h, -⟩; cases h)
  | cons uri more =>
    simp only [execute, huris]
    rw [notices_foldl_add, List.nil_append, List.mem_append, or_iff_left (by simp),
      List.mem_map_of_injective fun _ _ => Notice.applyEdit.inj, List.mem_filterMap]

/-- **What removing the emoji of some files spares.**  The editor is asked for an edit of every
document with an emoji that is open under one of the URIs, and for no other one.  As far as no links
stand at the ends of paths, whatever is stored on the disk stays as it is exactly when no file is
cleaned there for a URI under whose text no document is open.

So the file of an open document is spared as long as every URI that leads to it is the text of an
open document. -/
theorem removeFromFiles_spares (server : Server) (disk : Disk) (client : Client)
    (arguments : List Json) :
    (∀ edit, .applyEdit edit ∈ (server.execute disk client .removeFromFiles arguments).2.2 ↔
      ∃ uri ∈ uriArguments Command.removeFromFiles.schemes arguments,
        removalEdit? server.workspace uri.text = some edit) ∧
    ((∀ uri ∈ uriArguments Command.removeFromFiles.schemes arguments,
        ∀ path, written? server.workspace uri = some path → disk.EndsPlain path) →
      (∀ loc, (server.execute disk client .removeFromFiles arguments).2.1.node? loc =
          disk.node? loc ↔
        ∀ uri ∈ uriArguments Command.removeFromFiles.schemes arguments,
          ∀ path, written? server.workspace uri = some path →
            ∀ node, disk.find path = .ok (loc, node) → ¬ ∃ text, disk.Cleans path text) ∧
      ∀ key doc path loc node, server.workspace.document? key = some doc →
        doc.path = some path → disk.find path = .ok (loc, node) →
          (∀ uri ∈ uriArguments Command.removeFromFiles.schemes arguments,
            ∀ other, uri.path? = some other → disk.SamePlace path other →
              server.workspace.isOpen uri.text = true) →
            (server.execute disk client .removeFromFiles arguments).2.1.node? loc =
              disk.node? loc) := by
  refine ⟨fun edit => applyEdit_mem_removeFromFiles_iff, fun hplain => ?_⟩
  have hspared : ∀ loc, (server.execute disk client .removeFromFiles arguments).2.1.node? loc =
      disk.node? loc ↔ ∀ uri ∈ uriArguments Command.removeFromFiles.schemes arguments,
        ∀ path, written? server.workspace uri = some path →
          ∀ node, disk.find path = .ok (loc, node) → ¬ ∃ text, disk.Cleans path text := by
    intro loc
    rw [disk_removeFromFiles, Disk.node?_cleanAll_iff]
    · simp only [List.mem_filterMap, forall_exists_index, and_imp]
      exact ⟨fun h uri huri path hpath => h path uri huri hpath,
        fun h path uri huri hpath => h uri huri path hpath⟩
    · intro path hpath
      obtain ⟨uri, huri, hwritten⟩ := List.mem_filterMap.1 hpath
      exact hplain uri huri path hwritten
  refine ⟨hspared, ?_⟩
  intro key doc path loc node _ _ hfind hopen
  refine (hspared loc).2 fun uri huri other hwritten node' hfind' _ => ?_
  rw [written?] at hwritten
  split at hwritten
  · cases hwritten
  · next hclosed =>
    obtain rfl : node = node' :=
      Option.some_inj.1 ((Disk.node?_of_find hfind).symm.trans (Disk.node?_of_find hfind'))
    exact hclosed (hopen uri huri other hwritten ⟨_, hfind, hfind'⟩)

end Server

namespace Project

/-- The first of two files loses its emoji. -/
theorem node?_clean_twoFiles :
    (twoFiles.clean (atRoot "a").path).2.node? ["a"] =
      some (.file "1".toUTF8 Disk.filePermissions) := by
  have hfind := find_threeFiles.1
  have hplain := apart_threeFiles.plain (atRoot "a") (by decide) _ _ hfind
  have hread : twoFiles.readText (atRoot "a").path = .ok "1😀" :=
    Disk.readText_eq_ok_iff.2 (Disk.read_of_find hfind rfl)
  have hemoji : Emoji.find "1😀" ≠ [] := by decide +kernel
  have hremove : Emoji.remove "1😀" = "1" := by decide +kernel
  have hfault : twoFiles.fault? (atRoot "a").path = none := by
    delta Disk.fault?
    rw [slot_atRoot (by decide)]
    have hnode : twoFiles.node? ["a"] = some (.file "1😀".toUTF8 Disk.filePermissions) := rfl
    have hrefusal : ∀ access loc, twoFiles.refusal access loc = none := fun _ _ => rfl
    simp [Disk.obstacle?, hrefusal, hnode]
  rw [Disk.clean_eq hread hemoji hfind hplain, hfault, hremove]
  rfl

end Project

namespace Session

open Server

/-- The URI of a file in the root of the disk. -/
def sampleUri : Uri where
  scheme := "file".toList
  authority := some { host := [] }
  path := .rooted ["a".toList]

/-- Another URI of the same file, with its only letter escaped. -/
def escapedUri : Uri where
  scheme := "file".toList
  authority := some { host := [] }
  path := .rooted ["%61".toList]

/-- The session in which the file was opened. -/
def openedFile : Session :=
  (start {} (fun _ => true) none none).step
    (.call {} (fun _ => true) (.didOpen sampleUri "plaintext" "1😀" 1))

/-- A file that is named by the URI under which it is open stays as it is, and an edit is asked for
instead. -/
theorem removeFromFiles_spares_opened :
    openedFile.Reachable ∧
      (openedFile.server.execute Project.twoFiles (fun _ => true) .removeFromFiles
        [.string "file:///a"]).2.1.node? ["a"] = some (.file "1😀".toUTF8 Disk.filePermissions) ∧
      ∃ edit, .applyEdit edit ∈ (openedFile.server.execute Project.twoFiles (fun _ => true)
        .removeFromFiles [.string "file:///a"]).2.2 := by
  have huris : uriArguments Command.removeFromFiles.schemes [.string "file:///a"] =
      [sampleUri] := by decide +kernel
  have hopen : openedFile.server.workspace.isOpen sampleUri.text = true := by decide +kernel
  have hwritten : written? openedFile.server.workspace sampleUri = none := by
    rw [written?, hopen, if_pos rfl]
  obtain ⟨hedits, hfiles⟩ := removeFromFiles_spares openedFile.server Project.twoFiles
    (fun _ => true) [.string "file:///a"]
  rw [huris] at hedits hfiles
  refine ⟨.step (.start _ _ _ _) trivial, ?_, ?_⟩
  · have hplain : ∀ uri ∈ [sampleUri], ∀ path,
        written? openedFile.server.workspace uri = some path → Project.twoFiles.EndsPlain path := by
      intro uri huri path hpath
      rw [List.mem_singleton.1 huri, hwritten] at hpath
      cases hpath
    obtain ⟨doc, hdocument, hdoc⟩ : ∃ doc,
        openedFile.server.workspace.document? sampleUri.text = some doc ∧
          doc.path = some (Project.atRoot "a").path := by
      refine ⟨⟨some (Project.atRoot "a").path, "1😀", "plaintext", 1⟩, ?_, rfl⟩
      decide +kernel
    refine ((hfiles hplain).2 sampleUri.text doc _ _ _ hdocument hdoc Project.find_threeFiles.1
      fun uri huri _ _ _ => ?_).trans rfl
    rw [List.mem_singleton.1 huri]
    exact hopen
  · have hedit : (removalEdit? openedFile.server.workspace sampleUri.text).isSome = true := by
      decide +kernel
    obtain ⟨edit, hedit⟩ := Option.isSome_iff_exists.1 hedit
    exact ⟨edit, (hedits edit).2 ⟨sampleUri, List.mem_singleton_self _, hedit⟩⟩

/-- **A file is rewritten while it is open**: the command names it by the other URI, and no edit is
asked for. -/
theorem exists_rewritten_open :
    Uri.read "file:///a" = some sampleUri ∧ Uri.read "file:///%61" = some escapedUri ∧
      openedFile.Reachable ∧
      ((openedFile.server.workspace.document? sampleUri.text).bind Document.path =
        some (Project.atRoot "a").path) ∧
      (openedFile.server.execute Project.twoFiles (fun _ => true) .removeFromFiles
        [.string "file:///%61"]).2.1.node? ["a"] = some (.file "1".toUTF8 Disk.filePermissions) ∧
      Project.twoFiles.node? ["a"] = some (.file "1😀".toUTF8 Disk.filePermissions) ∧
      ∀ edit, .applyEdit edit ∉ (openedFile.server.execute Project.twoFiles (fun _ => true)
        .removeFromFiles [.string "file:///%61"]).2.2 := by
  have huris : uriArguments Command.removeFromFiles.schemes [.string "file:///%61"] =
      [escapedUri] := by decide +kernel
  have hclosed : openedFile.server.workspace.isOpen escapedUri.text = false := by decide +kernel
  have hpath : escapedUri.path? = some (Project.atRoot "a").path := by decide +kernel
  have hwritten : written? openedFile.server.workspace escapedUri =
      some (Project.atRoot "a").path := by
    rw [written?, hclosed, if_neg Bool.false_ne_true, hpath]
  refine ⟨by decide +kernel, by decide +kernel, .step (.start _ _ _ _) trivial, by decide +kernel,
    ?_, rfl, fun edit => ?_⟩
  · rw [disk_removeFromFiles, huris, List.filterMap_cons_some hwritten]
    exact Project.node?_clean_twoFiles
  · rw [applyEdit_mem_removeFromFiles_iff, huris]
    rintro ⟨uri, huri, hedit⟩
    rw [List.mem_singleton.1 huri, removalEdit?_eq_none_of_not_isOpen hclosed] at hedit
    cases hedit

end Session
end EmojiLint
