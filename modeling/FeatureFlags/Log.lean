import FeatureFlags.Json

/-! # What is logged

Operations that log return their records along with their value, in the order in which they were
written. -/

namespace FeatureFlags

inductive Log.Level where
  | debug
  | trace
  | warn
  deriving DecidableEq, Repr

structure Log.Record where
  level : Log.Level
  message : String
  fields : List (String × Json)
  deriving DecidableEq, Repr

structure Logged (α : Type) where
  value : α
  log : List Log.Record

namespace Log

def Level.name : Level → String
  | .debug => "DEBUG"
  | .trace => "TRACE"
  | .warn => "WARN"

def target : String := "flag_eval"

def Record.toJson (record : Record) : Json :=
  .ofMembers [
    ("target", .string target),
    ("level", .string record.level.name),
    ("message", .string record.message),
    ("kv", .ofMembers record.fields)]

end Log

namespace Logged

variable {α β : Type}

instance : Monad Logged where
  pure a := ⟨a, []⟩
  bind x f := ⟨(f x.value).value, x.log ++ (f x.value).log⟩

def write (level : Log.Level) (message : String) (fields : List (String × Json)) : Logged Unit :=
  ⟨(), [⟨level, message, fields⟩]⟩

@[simp] theorem value_pure (a : α) : (pure a : Logged α).value = a := rfl

@[simp] theorem log_pure (a : α) : (pure a : Logged α).log = [] := rfl

@[simp] theorem value_bind (x : Logged α) (f : α → Logged β) :
    (x >>= f).value = (f x.value).value := rfl

@[simp] theorem log_bind (x : Logged α) (f : α → Logged β) :
    (x >>= f).log = x.log ++ (f x.value).log := rfl

instance : LawfulMonad Logged := LawfulMonad.mk' Logged
  (fun _ => by simp [Functor.map])
  (fun _ _ => by simp [bind, pure])
  (fun _ _ _ => by simp [bind])

end Logged

end FeatureFlags
