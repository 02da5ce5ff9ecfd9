/-
# Where a project stops

A project comes to its root document and then, one after the other, to the documents that are
pending (`Project.ComesTo`).  A document that cannot be compiled ends this: the project fails with
the document's problem, the library is asked for nothing more and there is no store
(`compile_of_comesTo`).  The problem is that of the first entity of the document that can be
stopped (`first_fault_decides`).
-/

import ApiGraph.Proofs.Compilation.FirstFault
import ApiGraph.Proofs.Project.Discovery
import ApiGraph.Protocol.Rehearsal

namespace ApiGraph

open Document (Entity Outline)

namespace Project

variable {p : Project} {rootId name : String} {root d : Document} {s s' : ArtifactStore}
  {a a' : Agenda} {asked more : List String} {r : Except CompileError ArtifactStore}

/-- The documents that a project comes to, with what the library was asked for until then, and the
store and the agenda that it is to be compiled with. -/
inductive ComesTo (p : Project) (rootId : String) (root : Document) :
    List String → String → Document → ArtifactStore → Agenda → Prop
  /-- It begins with the root document. -/
  | root : ComesTo p rootId root [] (Path.normalize rootId) root {} ⟨[Path.normalize rootId], []⟩
  /-- When a document was compiled, the first pending one comes next. -/
  | next {asked : List String} {name name' : String} {d d' : Document} {s s' : ArtifactStore}
      {a a' : Agenda} {rest : List String} : ComesTo p rootId root asked name d s a →
      p.compileNext name d s a = .ok (s', a') → a'.pending = name' :: rest →
      p.library.resolve name' = .ok d' →
      ComesTo p rootId root (asked ++ [name']) name' d' s' { a' with pending := rest }

/-- What comes behind a document that is compiled is what comes of the project. -/
theorem ComesTo.runs (h : p.ComesTo rootId root asked name d s a)
    (compiled : p.compileNext name d s a = .ok (s', a')) (run : p.Collects s' a' more r) :
    p.Runs rootId root (asked ++ more) r := by
  induction h generalizing s' a' more with
  | root => exact .started compiled run
  | next _ before pending found ih =>
    rw [List.append_assoc]
    exact ih before (.next pending found compiled run)

/-- A document that is not compiled ends the run. -/
theorem ComesTo.runs_error (h : p.ComesTo rootId root asked name d s a) {e : CompileError}
    (failed : p.compileNext name d s a = .error e) : p.Runs rootId root asked (.error e) := by
  cases h with
  | root => exact .failed failed
  | next before compiled pending found =>
    exact before.runs compiled (.failed pending found failed)

/-- **A document that cannot be compiled** ends the project, with its problem and with nothing
more. -/
theorem compile_of_comesTo (h : p.ComesTo rootId root asked name d s a) {e : CompileError}
    (failed : d.compile p.settings s.nextIndex name = .error e) :
    p.compile rootId root = .error e ∧
      ∀ asked' r, p.Runs rootId root asked' r → asked' = asked ∧ r = .error e := by
  have ends : p.Runs rootId root asked (.error e) := by
    refine h.runs_error ?_
    rw [compileNext, failed]
    rfl
  obtain ⟨asked', run⟩ := p.exists_runs_compile rootId root
  exact ⟨(run.unique ends).2, fun _ _ other => other.unique ends⟩

end Project

namespace Document

variable {d : Document}

/-- **The first fault in the order of a walk decides,** and the problem says where it is.  The walk
goes into keys and out of them again, an entity before what is inside it.  If the compilation of no
entity is stopped, the document is compiled; else it fails with what stops the first one, and so
does every project that comes to the document. -/
theorem first_fault_decides (neat : (Entity.document d).Neat) (S : Settings) (name : String) :
    (∀ c, d.outline.traverse.exec S c = d.outline.compile.exec S c) ∧
    ((∀ v ∈ d.outline.visits [], d.halt? S name v = none) →
      ∀ index, ∃ store, d.compile S index name = .ok store) ∧
    ∀ before v after stop, d.outline.visits [] = before ++ v :: after →
      (∀ w ∈ before, d.halt? S name w = none) → d.halt? S name v = some stop →
      (Entity.document d).Contains (Frame.path v.frames) v.entity ∧
      (∀ index, d.compile S index name = .error (stop.problem (v.place name))) ∧
      ∀ (p : Project) rootId root asked s a, p.settings = S →
        p.ComesTo rootId root asked name d s a →
        p.compile rootId root = .error (stop.problem (v.place name)) ∧
          ∀ asked' r, p.Runs rootId root asked' r → asked' = asked ∧
            r = .error (stop.problem (v.place name)) := by
  have distinct := nodup_places neat name
  refine ⟨d.outline.exec_traverse_eq_compile S,
    fun none index => (exists_compile_iff distinct).2 none,
    fun before v after stop split passed halt => ?_⟩
  have visited : v ∈ d.outline.visits [] := split ▸ List.mem_append_right _ (List.mem_cons_self ..)
  have failed (index : Nat) : d.compile S index name = .error (stop.problem (v.place name)) :=
    (compile_eq_error_iff distinct).2 (firstProblem?_of_split split passed halt)
  refine ⟨exists_visit_iff.1 ⟨v, visited, rfl⟩, failed, ?_⟩
  rintro p rootId root asked s a rfl comes
  exact Project.compile_of_comesTo comes (failed _)

/-- A document with a channel whose name has a slash in it, behind another channel. -/
def slashedText : String :=
  "\x7b\"channels\":\x7b\"a\":\x7b\x7d," ++
    "\"b/c\":\x7b\"publish\":\x7b\"message\":\x7b\x7d\x7d\x7d\x7d\x7d"

/-- A builder that breaks down whenever it is given a message. -/
def breakingSettings : Settings where
  registry := [("boom", Rehearsal.builder ⟨"boom", "Boom", ["message"], .report, []⟩)]

/-- A builder that breaks down for a message ends the project at the message. -/
theorem first_fault_decides_slashed : ∃ d, ofText slashedText = .ok d ∧
    ∀ library, Project.compile ⟨breakingSettings, library⟩ "x/../main" d =
      .error (.brokeDown "main" ⟨"main", ["channels", "b/c", "publish", "message"]⟩
        "message panicked for application/json") := by
  have checked : (ofText slashedText).toOption.map (fun d =>
      ((d.outline.visits []).take 4).all (fun w => (d.halt? breakingSettings "main" w).isNone) &&
      (d.outline.visits [])[4]?.map (fun v => (Frame.path v.frames,
        d.halt? breakingSettings "main" v)) == some (["channels", "b/c", "publish", "message"],
          some (.brokeDown (some "message panicked for application/json")))) = some true := by
    decide +kernel
  cases h : ofText slashedText with
  | error e => rw [h] at checked; cases checked
  | ok d =>
    rw [h] at checked
    simp only [Except.toOption, Option.map_some, Option.some.injEq, Bool.and_eq_true,
      List.all_eq_true, Option.isNone_iff_eq_none, beq_iff_eq] at checked
    obtain ⟨passed, fourth⟩ := checked
    obtain ⟨v, hv, found⟩ := Option.map_eq_some_iff.1 fourth
    obtain ⟨path, halt⟩ := Prod.mk.inj found
    obtain ⟨inside, rfl⟩ := List.getElem?_eq_some_iff.1 hv
    have split := (List.take_append_drop 4 (d.outline.visits [])).symm
    rw [List.drop_eq_getElem_cons inside] at split
    have decides := first_fault_decides (neat_of_ofText h) breakingSettings "main"
    obtain ⟨-, -, project⟩ := decides.2.2 _ _ _ _ split passed halt
    refine ⟨d, rfl, fun library => ?_⟩
    have named : Path.normalize "x/../main" = "main" := by decide +kernel
    have comes : Project.ComesTo ⟨breakingSettings, library⟩ "x/../main" d _ _ _ _ _ := .root
    rw [named] at comes
    rw [(project _ _ _ _ _ _ rfl comes).1, Visit.place, path]
    rfl

end Document
end ApiGraph
