import MemberAccess.Accessor.Source

/-!
# Accessors

An accessor is a plan that was made ready to be called: what its access is made on is settled, and
nothing that happens afterwards to the library (rules added, members found, other accessors made) takes
part in a call.  A call goes through the plan in order: the arguments are counted, the receiver is
looked at, the arguments are converted from left to right, the access is made, and its result is
converted.
-/

namespace MemberAccess

open MemberAccess.Action

/-- A compiled accessor. -/
structure Accessor where
  plan : Plan
  subject : Subject
  /-- the name of its function -/
  name : String
  qualifiedName : String
  doc : String
  source : String
  /-- whether its source can be looked up by its file name -/
  isListed : Bool
  deriving Inhabited

namespace Accessor

/-- Makes a plan ready to be called; the function that its text spells must have no defect. -/
def ofPlan (st : Store) (isListed : Bool) (p : Plan) : Outcome Accessor :=
  match p.defect? st with
  | some k => .error (.fault k)
  | none => .ok {
      plan := p
      subject := p.subject st
      name := p.functionName st
      qualifiedName := p.descriptor.qualifiedName st ++ ".<" ++ Plan.accessWord p.shape ++ ">"
      doc := "Compiled " ++ p.shape.words st ++ " accessor for the " ++ p.descriptor.text st ++ "."
      source := p.source st
      isListed := isListed }

/-! ## §1 Arguments -/

/-- The arguments of a call under the names of the parameters. -/
abbrev Arguments := List (String × Value)

/-- The argument of a name; a name that is no parameter means nothing. -/
def argument (env : Arguments) (name : String) : Action Value :=
  match env.lookup name with
  | some v => return v
  | none => fault .nameError

/-- Looks at a sequence of arguments: it has to be there, with the wanted count of items. -/
def checkSequence (env : Arguments) (n : Nat) : Action Unit := do
  let v ← argument env "args"
  if v = .nothing then throw (.invalidArgument "args" none)
  let count ← v.itemCount
  if count = n then return () else throw (.arityMismatch n count "'args' argument" "items")

/-- Looks at the receiver. -/
def checkReceiver (env : Arguments) (d : MemberDescriptor) (r : ReceiverStep) : Action Unit := do
  let st ← get
  let v ← argument env "instance"
  if v = .nothing then throw (.nullReceiver (d.text st))
  match r.check with
  | none => return ()
  | some c =>
      if ← v.isInstance c then return ()
      else v.refuse "instance" (r.declaring.typeName st)

/-- Takes an argument, as an item of the sequence or by its name, and converts it. -/
def operand (env : Arguments) (isItem : Bool) (a : ArgumentStep) : Action Value := do
  let v ← if isItem then do (← argument env "args").itemAt a.slot else argument env a.name
  match a.converter with
  | none => return v
  | some c => c.apply v a.name

/-- Takes and converts arguments from left to right. -/
def operands (env : Arguments) (isItem : Bool) (as : List ArgumentStep) : Action (List Value) :=
  as.mapM (operand env isItem)

/-! ## §2 The access -/

/-- Makes the access on a holder of the member. -/
def accessMember (p : Plan) (env : Arguments) (holder : Value) : Action Value := do
  let name := p.descriptor.attributeName
  let isItem := p.arrayArity.isSome
  match p.operation with
  | .get => holder.getAttribute name
  | .set =>
      match p.arguments with
      | a :: _ =>
          let x ← operand env isItem a
          holder.setAttribute name x
          return .nothing
      | [] => return .nothing
  | _ =>
      let f ← holder.getAttribute name
      let vs ← operands env isItem p.arguments
      f.call vs

/-- Makes the access of a plan on its subject. -/
def access (p : Plan) (s : Subject) (env : Arguments) : Action Value := do
  match s with
  | .target f =>
      let vs ← operands env p.arrayArity.isSome p.arguments
      f.call vs
  | .owner v => accessMember p env v
  | .receiver => accessMember p env (← argument env "instance")

/-- Converts the result of a member; a refusal speaks of the result. -/
def convertResult (d : MemberDescriptor) (c : Converter) (v : Value) : Action Value := do
  let st ← get
  let place := "result of the " ++ d.text st
  tryCatchThe Failure (c.apply v place) fun f => do
    if f.isA .argumentTypeMismatch then
      let expected := (f.expectedType?.map st.textOf).getD ""
      throw (.producedMismatch place (st.valueTypeName v) expected)
    else throw f

/-! ## §3 Calls -/

/-- Goes through a call up to its access. -/
def reach (a : Accessor) (arguments : List Value) : Action Value := do
  let p := a.plan
  if arguments.length ≠ p.parameterNames.length then fault .typeError
  let env := p.parameterNames.zip arguments
  match p.arrayArity with
  | some n => checkSequence env n
  | none => pure ()
  match p.receiver with
  | some r => checkReceiver env p.descriptor r
  | none => pure ()
  access p a.subject env

/-- What a call gives for what its access gave. -/
def finish (p : Plan) (v : Value) : Action Value :=
  match p.operation, p.result with
  | .set, _ | _, none => return .nothing
  | _, some ⟨_, none⟩ => return v
  | _, some ⟨_, some c⟩ => convertResult p.descriptor c v

/-- Calls an accessor with arguments. -/
def call (a : Accessor) (arguments : List Value) : Action Value := do
  finish a.plan (← a.reach arguments)

end Accessor
end MemberAccess
