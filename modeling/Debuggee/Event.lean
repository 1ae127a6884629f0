namespace Debuggee

inductive Event : Type
  | start : Event
  | stop : Event
  | continue : Event
  | exit : Event
  | memoryChanged : Event
  | registerChanged : Event
  | newModule : Event
  | prompt : Event
  deriving DecidableEq, Repr

namespace Event

def all : List Event :=
  [.start, .stop, .continue, .exit, .memoryChanged, .registerChanged, .newModule, .prompt]

def text : Event → String
  | .start => "start"
  | .stop => "stop"
  | .continue => "continue"
  | .exit => "exit"
  | .memoryChanged => "memory-changed"
  | .registerChanged => "register-changed"
  | .newModule => "new-module"
  | .prompt => "prompt"

def parse? (name : String) : Option Event := all.find? (·.text == name)

theorem mem_all (e : Event) : e ∈ all := by cases e <;> decide

@[simp] theorem parse?_text (e : Event) : parse? e.text = some e := by cases e <;> rfl

end Event

end Debuggee
