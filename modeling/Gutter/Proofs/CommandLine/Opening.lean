import Gutter.CommandLine.Run
import Gutter.Proofs.Document
import Gutter.Proofs.Settings.Assigning

/-! What a check starts from: settings with which outputs can be read in batches, and a session with
a document of its own for each file. -/

namespace Gutter

namespace CommandLine

variable {world : World} {o : Options} {width : Option Nat} {settings : Settings}
  {registry : Registry}

theorem batchSize_of_prepare {loaded : LogLine}
    (h : prepare world o width = .ok (loaded, .ok (settings, registry))) :
    0 < settings.batchSize := by
  unfold prepare at h
  simp only at h
  split at h
  · cases h
  next found _ =>
    split at h
    · cases h
    · cases h
    next accepted hbuild =>
      have hsize := (Settings.sound_of_build hbuild).batchSize
      split at h
      · cases h
        exact hsize
      · cases h
      · cases h

theorem openFrom_eq (files : Files) (id : Nat) (path : String) (rest : List String) :
    openFrom files id (path :: rest) = match Document.ofFile files id path with
      | .error e => .error (.told s!"Unable to read {Path.normal path}: {e.message}")
      | .ok document => (openFrom files (id + 1) rest).map (document :: ·) :=
  -- In brackets, so that `rfl` is not tried as a definitional rewrite, which reads the file.
  (rfl)

theorem openFrom_cons {files : Files} {id : Nat} {path : String} {rest : List String}
    {document : Document} (h : Document.ofFile files id path = .ok document) :
    openFrom files id (path :: rest) = (openFrom files (id + 1) rest).map (document :: ·) := by
  rw [openFrom_eq, h]

/-- Files that can be read are opened in their order, each as a document of its own. -/
theorem openFrom_eq_ok {files : Files} {paths : List String} (id : Nat)
    (h : ∀ path ∈ paths, ∃ text, Document.readText files (Path.normal path) = .ok text) :
    ∃ documents, openFrom files id paths = .ok documents ∧
      documents.map (·.id) = List.range' id paths.length ∧
      documents.map (·.filename) = paths.map fun path => some (Path.normal path) := by
  induction paths generalizing id with
  | nil => exact ⟨[], rfl, rfl, rfl⟩
  | cons path rest ih =>
    obtain ⟨text, htext⟩ := h path List.mem_cons_self
    obtain ⟨documents, hopened, hids, hnames⟩ :=
      ih (id + 1) fun path hp => h path (List.mem_cons_of_mem _ hp)
    obtain ⟨document, hfile, rfl, hname⟩ : ∃ document,
        Document.ofFile files id path = .ok document ∧ document.id = id ∧
          document.filename = some (Path.normal path) :=
      ⟨Document.ofText id text (some (Path.normal path)), by rw [Document.ofFile, htext]; rfl, rfl,
        rfl⟩
    refine ⟨document :: documents, ?_, ?_, ?_⟩
    · rw [openFrom_cons hfile, hopened]
      rfl
    · rw [List.map_cons, hids, List.length_cons, List.range'_succ]
    · rw [List.map_cons, hnames, List.map_cons, hname]

/-- Documents with numbers that are new are all added, and held. -/
theorem foldl_add_eq {s : Session} {documents : List Document}
    (hnew : ∀ document ∈ documents, document.id ∉ s.issued)
    (hids : (documents.map (·.id)).Nodup) :
    documents.foldl (fun s document => s.add document true) s =
      { s with
        issued := s.issued ++ documents.map (·.id)
        members := s.members ++ documents.map fun document => ⟨document, true, true⟩ } := by
  induction documents generalizing s with
  | nil => simp
  | cons document rest ih =>
    obtain ⟨hother, hrest⟩ := List.nodup_cons.mp hids
    have hadd : s.add document true =
        { s with
          issued := s.issued ++ [document.id]
          members := s.members ++ [⟨document, true, true⟩] } :=
      if_neg fun hm => hnew document List.mem_cons_self (List.contains_iff_mem.mp hm)
    rw [List.foldl_cons, hadd, ih _ hrest]
    · simp
    · intro d hd hm
      obtain hm | hm := List.mem_append.mp hm
      · exact hnew d (List.mem_cons_of_mem _ hd) hm
      · exact hother (List.mem_map.mpr ⟨d, hd, List.mem_singleton.mp hm⟩)

theorem sessionOf_eq (world : World) (settings : Settings) (registry : Registry)
    {documents : List Document} (hids : (documents.map (·.id)).Nodup) :
    sessionOf world settings registry documents =
      { Session.open_ settings world.base registry with
        issued := documents.map (·.id)
        members := documents.map fun document => ⟨document, true, true⟩ } :=
  foldl_add_eq (fun _ _ => List.not_mem_nil) hids

end CommandLine

end Gutter
