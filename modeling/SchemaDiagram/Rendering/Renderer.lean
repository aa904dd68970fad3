import SchemaDiagram.Job

namespace SchemaDiagram

abbrev Renderer := RenderRequest → Job Unit

namespace Renderer

def limitVariable : String := "PLANTUML_LIMIT_SIZE"

def invocation (program : String) (r : RenderRequest) : Invocation where
  program := program
  arguments := ["-pipe", r.format.rendererFlag, "-charset", "UTF-8"]
  environment := [(limitVariable, toString r.limitSize)]
  input := r.source

def image (program : String) : ChildOutcome → Except Error ByteArray
  | .notStarted .notFound => .error (.rendererNotFound program)
  | .notStarted cause => .error (.access program cause)
  | .ended status output feedFailure =>
      match feedFailure.filter (· ≠ .brokenPipe) with
      | some cause => .error (.access program cause)
      | none => if status.isSuccess then .ok output else .error (.renderFailed program status)

def ofProgram (launch : Launcher) (program : String) : Renderer := fun request => do
  Job.report [.rendering program request]
  let output ← Job.ofExcept (image program (launch (← Job.files) (invocation program request)))
  Job.writeFile request.output output

def idle : Renderer := fun request => Job.report [.rendering "" request]

end Renderer

end SchemaDiagram
