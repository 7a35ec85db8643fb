import Chargeback.Proofs.AllOrNothing
import Chargeback.Proofs.Documents

/-!
# When the next command can read the store

The text that a command writes is read by the next one. It is accepted exactly if no rule tree in it is
higher than `RuleTree.heightLimit`. A text that is read may be a little tighter than one that is written,
since a node without conditions need not say so, while it is always written with an empty list of them.
So a store can be read, changed and written, and then be too deep to be read: the last theorem shows one.
-/

namespace Chargeback

open Json

namespace Workspace

variable {w : Workspace} {c : StoreCommand}

theorem readStore_of_text {s : Store Float} {text : String}
    (htext : w.surroundings.fileText w.profiles = some text) (hs : Store.read? text = some s) :
    w.readStore = .ok s := by
  rw [readStore, htext]
  simp only [hs]

/-- A command that changes the store and succeeds has read a store and writes another one, whose text can
be read again exactly if no rule tree in it is too high. -/
theorem written_text_readable_iff (hc : c.isReport = false)
    (hok : (w.runStoreCommand c).failure = none) :
    ∃ before after : Store Float, w.readStore = .ok before ∧ w.Edits before c after.profiles ∧
      (w.runStoreCommand c).writes = [(w.profiles, after.text)] ∧
      ((∃ again, Store.read? after.text = some again) ↔
        ∀ p ∈ after.profiles, p.rules.height ≤ RuleTree.heightLimit) := by
  obtain ⟨store, hcommits, hstore⟩ := exists_commits (w := w) hc
  cases store with
  | none => exact absurd hok hcommits.1
  | some after =>
    obtain ⟨before, hbefore, hsaves⟩ := hstore after rfl
    have hedits := edits_of_saves? hsaves
    have hholds := hedits.holds_text hbefore
    refine ⟨before, after, hbefore, hedits, hcommits.2, ?_, fun hlow => ⟨_, hholds.whole hlow⟩⟩
    rintro ⟨again, hagain⟩ p hp
    by_contra hhigh
    have hnone : Store.read? after.text = none := hholds.cut ⟨p, hp, Nat.not_le.mp hhigh⟩
    rw [hnone] at hagain
    cases hagain

theorem written_text_readable_iff_removal :
    let w := Workspace.of Sample.removal .standard Sample.place
    ∃ before after : Store Float, w.readStore = .ok before ∧
      w.Edits before (.delete "HEAT") after.profiles ∧
      (w.runStoreCommand (.delete "HEAT")).writes = [(w.profiles, after.text)] ∧
      ((∃ again, Store.read? after.text = some again) ↔
        ∀ p ∈ after.profiles, p.rules.height ≤ RuleTree.heightLimit) :=
  written_text_readable_iff rfl (by decide +kernel)

end Workspace

/-! ## A store that can be read, but not when it is written -/

namespace Sample

/-- The document of a rule tree without conditions, in which every node but the last has one child. What
is empty is left out. -/
def nestedDocument : Nat → Json
  | 0 => .obj []
  | n + 1 => .obj [("groups", .arr [nestedDocument n])]

/-- The document of a store with a single draft, whose rule tree has 63 nodes. -/
def deepDocument : Json :=
  .arr [.obj [("id", .str "1"), ("name", .str "Deep"), ("rules", nestedDocument 62)]]

/-- The rule tree of such a document. -/
def nestedTree : Nat → RuleTree
  | 0 => .empty
  | n + 1 => ⟨.and, [], [nestedTree n]⟩

/-- The draft. -/
def deepProfile : Profile Float where
  id := "1"
  name := "Deep"
  description := ""
  status := .draft
  priority := Profile.defaultPriority
  model := .simple
  rules := nestedTree 62
  rates := []
  shared := .empty
  created := none
  modified := none

/-- A place with the store in a file. -/
def deepPlace : Surroundings :=
  { place with
    fileText := fun file => if file = "store.json" then some (deepDocument.pretty ++ "\n") else none }

/-- The workspace of a request at this place. -/
def deepWorkspace : Workspace := .of removal .standard deepPlace

theorem printable_nestedDocument (n : Nat) : Printable (nestedDocument n) := by
  induction n with
  | zero => exact .obj (by simp)
  | succ n ih =>
    have hgroups : Printable (.arr [nestedDocument n]) := .arr (by simpa using ih)
    exact .obj (by simpa using hgroups)

theorem printable_deepDocument : Printable deepDocument := by
  refine .arr ?_
  simp only [List.mem_singleton, forall_eq]
  refine .obj ?_
  simp [Printable.str, printable_nestedDocument]

theorem reread_nestedDocument {n limit : Nat} (h : 2 * n < limit) :
    reread limit (nestedDocument n) = nestedDocument n := by
  induction n generalizing limit with
  | zero =>
    rw [nestedDocument, reread, if_neg (by omega)]
    rfl
  | succ n ih =>
    have hn := @ih (limit - 2) (by omega)
    have houter : limit ≠ 0 := by omega
    have hinner : limit - 1 ≠ 0 := by omega
    rw [nestedDocument]
    simp only [reread, rereadFields, rereadItems, houter, hinner, if_false]
    rw [show limit - 1 - 1 = limit - 2 by omega, hn]

theorem depth_nestedDocument (n : Nat) : (nestedDocument n).depth = 2 * n + 1 := by
  induction n with
  | zero => rfl
  | succ n ih =>
    simp only [nestedDocument, depth, depthFields, depthItems, ih]
    omega

theorem readWithin?_nestedDocument {n fuel : Nat} (h : n < fuel) :
    RuleTree.readWithin? fuel (nestedDocument n) = some (nestedTree n) := by
  induction n generalizing fuel with
  | zero =>
    obtain ⟨fuel, rfl⟩ : ∃ k, fuel = k + 1 := ⟨fuel - 1, by omega⟩
    rfl
  | succ n ih =>
    obtain ⟨fuel, rfl⟩ : ∃ k, fuel = k + 1 := ⟨fuel - 1, by omega⟩
    have hn := @ih fuel (by omega)
    simp [RuleTree.readWithin?, nestedDocument, nestedTree, isRecord, optional?, slot?, list?, hn]

theorem height_nestedTree (n : Nat) : (nestedTree n).height = n + 1 := by
  induction n with
  | zero => rfl
  | succ n ih => simp [nestedTree, RuleTree.height, RuleTree.heights, ih]

theorem read?_deepDocument :
    Store.read? (deepDocument.pretty ++ "\n") = some ⟨[deepProfile]⟩ := by
  have hrules : RuleTree.read? (nestedDocument 62) = some (nestedTree 62) :=
    readWithin?_nestedDocument (by rw [depth_nestedDocument]; decide)
  have hreread : reread depthLimit deepDocument = deepDocument := by
    have hnested : reread 125 (nestedDocument 62) = nestedDocument 62 :=
      reread_nestedDocument (by decide)
    simp [deepDocument, depthLimit, reread, rereadItems, rereadFields, hnested]
  have hprofile : list? Profile.read? deepDocument = some [deepProfile] := by
    simp [deepDocument, list?, Profile.read?, isRecord, optional?, required?, slot?, str?, hrules,
      deepProfile]
  rw [Store.read?, printable_deepDocument.read?_pretty, Option.bind_some, hreread, hprofile]
  rfl

theorem readStore_deepWorkspace : deepWorkspace.readStore = .ok ⟨[deepProfile]⟩ := by
  refine Workspace.readStore_of_text ?_ read?_deepDocument
  simp [deepWorkspace, Workspace.of, removal, deepPlace]

end Sample

/-- Submitting the draft succeeds, and leaves a store that cannot be read. -/
theorem Workspace.written_text_unreadable_deep :
    let r := Sample.deepWorkspace.runStoreCommand (.move "1" .inReview)
    r.failure = none ∧
      ∃ text, r.writes = [(Sample.deepWorkspace.profiles, text)] ∧ Store.read? text = none := by
  let submitted := Sample.deepProfile.moved .inReview Sample.deepPlace.now
  have hsaves : Sample.deepWorkspace.saves? ⟨[Sample.deepProfile]⟩ (.move "1" .inReview) =
      some ⟨[submitted]⟩ := by
    have happly : Store.apply ⟨[Sample.deepProfile]⟩ Sample.deepPlace.freshId Sample.deepPlace.now
        (.move "1" .inReview) = .ok ⟨[submitted]⟩ := by
      rfl
    rw [saves?_of_ok rfl happly]
    rfl
  have hcommits := commits_runStoreCommand Sample.readStore_deepWorkspace
    (show StoreCommand.isReport (.move "1" .inReview) = false from rfl)
  rw [hsaves] at hcommits
  refine ⟨hcommits.1, _, hcommits.2, ?_⟩
  have hrecoverable : ∀ p ∈ [submitted], p.IsRecoverable := by
    obtain ⟨hpriority, hrules, hrates, hshared⟩ :=
      isRecoverable_of_readStore Sample.readStore_deepWorkspace Sample.deepProfile
        (List.mem_singleton_self _)
    intro p hp
    rw [List.mem_singleton.mp hp]
    exact ⟨hpriority, hrules, hrates, hshared⟩
  have hhigh : RuleTree.heightLimit < submitted.rules.height := by
    rw [show submitted.rules = Sample.nestedTree 62 from rfl, Sample.height_nestedTree]
    decide
  exact (Store.holds_text (s := ⟨[submitted]⟩) hrecoverable).cut
    ⟨submitted, List.mem_singleton_self _, hhigh⟩

end Chargeback
