/-
# Which servers are shown

A server is compiled to an artifact that is visible unless the document ignores the server, and
that has its protocol.  A server that is written as a reference is compiled to a reference, and
that is visible whatever the document says of it (`Server.Shown`, `grants_shown`).
-/

import ApiGraph.Proofs.Compilation.Derivation

namespace ApiGraph

open Document (Entity)

/-- The server can be seen in its artifact: it is not ignored, or it is a reference. -/
def Document.Server.isShown (s : Document.Server) : Bool :=
  s.reference.isSome || !s.ignored

theorem Document.Server.isShown_iff {s : Document.Server} :
    s.isShown = true ↔ (s.reference = none → s.ignored = false) := by
  rw [isShown]
  cases s.reference <;> simp

/-- What an artifact shows of the server that it was compiled from. -/
structure Document.Server.Shown (s : Document.Server) (a : Artifact) : Prop where
  visible : a.visible = s.isShown
  protocol : ∀ b, a.body = .server b → b.protocol = s.protocol

/-- What an artifact shows if its entity is a server. -/
def Document.Entity.Shown (e : Entity) (a : Artifact) : Prop :=
  ∀ s, e = .server s → s.Shown a

namespace Compile

open Document

variable {settings : Settings} {c : Context}

/-- A reference is visible, and it is no server itself. -/
theorem ensures_compileReference_added {P : Artifact → Prop} {reference : String} {kind : Kind}
    {shownAs : Option String} (h : ∀ (a : Artifact) (r : Body.Reference), a.visible = true →
      a.body = .reference r → P a) :
    (compileReference reference kind shownAs).Ensures settings c
      (fun _ c' => c'.Added P) AnyStop := by
  refine ensures_get_bind ?_
  split
  · exact ensures_fail trivial
  · exact .skip fun _ _ => ensures_add_added (h _ _ rfl rfl)

theorem ensures_server_shown (s : Server) :
    s.compile.Ensures settings c (fun _ c' => c'.Added s.Shown) AnyStop := by
  rw [Server.compile]
  split
  · rename_i reference href
    refine ensures_compileReference_added fun a r visible body => ⟨?_, fun b hb => ?_⟩
    · rw [visible, Server.isShown, href]
      rfl
    · rw [body] at hb
      cases hb
  · rename_i own
    refine .skip fun _ _ => .skip fun _ _ => .skip fun _ _ => .skip fun _ _ => ?_
    refine ensures_read_bind ?_
    refine ensures_ite (fun _ => ?_) fun _ => .skip fun _ _ => ?_
    all_goals
      refine .skip fun _ _ => ensures_addEntity_added fun a _ visible body => ⟨?_, fun b hb => ?_⟩
      · rw [visible, Server.isShown, own]
        rfl
      · rw [body] at hb
        cases hb
        rfl

/-- **Every server is shown** in its artifact. -/
theorem grants_shown : Grants settings Entity.Shown := by
  intro e c
  cases e with
  | server s =>
    refine ensures_deposited (.server s) ((ensures_server_shown s).mono ?_ fun _ _ h => h)
    rintro - c' ⟨before, a, last, shown⟩
    refine ⟨before, a, last, fun s' same => ?_⟩
    cases same
    exact shown
  | _ =>
    refine (ensures_compile _).mono ?_ fun _ _ _ => trivial
    rintro - c' ⟨a, dep⟩
    exact ⟨a, dep, fun s same => by cases same⟩

end Compile
end ApiGraph
