import BattleShips.Core.Dispatcher

/-!
# One table, one match

The table of the dispatcher is searched for the first entry that matches. Each entry has a type or
a text of its own, so that two entries only match one message if its type names the one and its
text starts like the other.
-/

namespace BattleShips

/-! ### Searching a list -/

section Find

variable {α : Type*} {p : α → Bool} {l l' : List α} {a : α}

lemma find?_eq_of_unique (ha : a ∈ l) (hp : p a) (hunique : ∀ b ∈ l, p b → b = a) :
    l.find? p = some a := by
  cases hfind : l.find? p with
  | none => exact absurd hp (List.find?_eq_none.1 hfind a ha)
  | some b => rw [hunique b (List.mem_of_find?_eq_some hfind) (List.find?_some hfind)]

/-- If no two elements match, it does not matter in which order the list is searched. -/
lemma find?_perm (hperm : l'.Perm l) (hunique : ∀ a ∈ l, ∀ b ∈ l, p a → p b → a = b) :
    l'.find? p = l.find? p := by
  cases hfind : l.find? p with
  | none =>
    apply List.find?_eq_none.2
    intro a ha
    exact List.find?_eq_none.1 hfind a (hperm.mem_iff.1 ha)
  | some a =>
    have ha : a ∈ l := List.mem_of_find?_eq_some hfind
    have hp : p a := List.find?_some hfind
    apply find?_eq_of_unique (hperm.mem_iff.2 ha) hp
    intro b hb hpb
    exact hunique b (hperm.mem_iff.1 hb) a ha hpb hp

end Find

namespace Dispatcher

/-- What an entry of the table comes to. -/
def Action.info (action : Action) : ActionInfo where
  scope := action.scope
  variant := action.make

/-- The search for a message in a table. -/
def dispatchIn (table : List Action) (message : ReceivedMessage) : ActionInfo :=
  match table.find? (matchAction · message) with
  | some action => action.info
  | none => { scope := .none, variant := .generalAction }

lemma dispatch_eq_dispatchIn (message : ReceivedMessage) :
    dispatch message = dispatchIn actions message := by
  rw [dispatch, dispatchIn]
  cases actions.find? (matchAction · message) with
  | none => rfl
  | some action => rfl

/-- The text of the message starts like that of the entry. -/
def Action.StartsText (action : Action) (message : ReceivedMessage) : Prop :=
  ∃ text ∈ action.textAliases, text <+: message.payload

lemma matchAction_iff {action : Action} {message : ReceivedMessage} :
    matchAction action message ↔ action.type = some message.type ∨ action.StartsText message := by
  simp [matchAction, Action.StartsText]

/-- At most one entry of the table matches the message, and what it is dispatched to is a matter of
its type first. -/
structure Unambiguous (message : ReceivedMessage) : Prop where
  once : ∀ a ∈ actions, ∀ b ∈ actions, matchAction a message → matchAction b message → a = b
  order : ∀ table, table.Perm actions → dispatchIn table message = dispatch message
  type : ∀ a ∈ actions, a.type = some message.type → dispatch message = a.info

/-! ### The entries of the table -/

lemma eq_of_type : ∀ a ∈ actions, ∀ b ∈ actions, ∀ type, a.type = some type →
    b.type = some type → a = b := by
  have hdistinct : ∀ a ∈ actions, ∀ b ∈ actions, a.type.isSome → a.type = b.type → a = b := by
    decide
  intro a ha b hb type hatype hbtype
  apply hdistinct a ha b hb
  · rw [hatype]
    rfl
  · rw [hatype, hbtype]

/-- No text of the table starts like another one. -/
lemma alias_unique : ∀ a ∈ actions, ∀ b ∈ actions, ∀ x ∈ a.textAliases, ∀ y ∈ b.textAliases,
    x <+: y → a = b := by
  decide

lemma eq_of_startsText {message : ReceivedMessage} {a b : Action} (ha : a ∈ actions)
    (hb : b ∈ actions) (hatext : a.StartsText message) (hbtext : b.StartsText message) : a = b := by
  obtain ⟨x, hx, hxstarts⟩ := hatext
  obtain ⟨y, hy, hystarts⟩ := hbtext
  rcases List.prefix_or_prefix_of_prefix hxstarts hystarts with hxy | hyx
  · exact alias_unique a ha b hb x hx y hy hxy
  · exact (alias_unique b hb a ha y hy x hx hyx).symm

/-- **One match**: the dispatch of a message is unambiguous just if its text starts like no entry
other than the one that its type names. -/
theorem unambiguous_iff (message : ReceivedMessage) : Unambiguous message ↔
    ∀ a ∈ actions, a.type = some message.type → ∀ b ∈ actions, b.StartsText message → b = a := by
  constructor
  · intro h a ha htype b hb htext
    exact h.once b hb a ha (matchAction_iff.2 (.inr htext)) (matchAction_iff.2 (.inl htype))
  intro hnames
  have honce : ∀ a ∈ actions, ∀ b ∈ actions, matchAction a message → matchAction b message →
      a = b := by
    intro a ha b hb hamatch hbmatch
    rcases matchAction_iff.1 hamatch with hatype | hatext
    · rcases matchAction_iff.1 hbmatch with hbtype | hbtext
      · exact eq_of_type a ha b hb _ hatype hbtype
      · exact (hnames a ha hatype b hb hbtext).symm
    · rcases matchAction_iff.1 hbmatch with hbtype | hbtext
      · exact hnames b hb hbtype a ha hatext
      · exact eq_of_startsText ha hb hatext hbtext
  constructor
  · exact honce
  · intro table hperm
    rw [dispatch_eq_dispatchIn, dispatchIn, dispatchIn, find?_perm hperm honce]
  · intro a ha htype
    have hmatch : matchAction a message := matchAction_iff.2 (.inl htype)
    have hfind : actions.find? (matchAction · message) = some a :=
      find?_eq_of_unique ha hmatch fun b hb hbmatch => honce b hb a ha hbmatch hmatch
    rw [dispatch_eq_dispatchIn, dispatchIn, hfind]

/-- A message whose type says that it is a socket, and whose text asks for a lobby. -/
theorem not_unambiguous :
    dispatch { type := .socket, payload := ascii "\\create" } =
        { scope := .broadcast, variant := .createLobby } ∧
      ¬ Unambiguous { type := .socket, payload := ascii "\\create" } := by
  have hdispatch : dispatch { type := .socket, payload := ascii "\\create" } =
      { scope := .broadcast, variant := .createLobby } := by decide
  refine ⟨hdispatch, fun h => ?_⟩
  have hsocket := h.type
    { textAliases := [ascii "\\socket"], type := some .socket, scope := .network,
      make := .acceptSocket } (by decide) rfl
  rw [hdispatch] at hsocket
  exact absurd hsocket (by decide)

end Dispatcher

end BattleShips
