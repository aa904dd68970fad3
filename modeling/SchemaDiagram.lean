import SchemaDiagram.Main
import SchemaDiagram.Proofs.Assembly.RoundTrip
import SchemaDiagram.Proofs.Diagram.Accounting
import SchemaDiagram.Proofs.Diagram.Fidelity
import SchemaDiagram.Proofs.Ddl.StatementLine
import SchemaDiagram.Proofs.Ddl.Segmentation
import SchemaDiagram.Proofs.Files.Writing
import SchemaDiagram.Proofs.Job
import SchemaDiagram.Proofs.Rendering.Outcome
import SchemaDiagram.Proofs.Diagram.Production
import SchemaDiagram.Proofs.Diagram.FieldLine
import SchemaDiagram.Proofs.Diagram.Meaning
import SchemaDiagram.Proofs.Harvest
import SchemaDiagram.Proofs.CommandLine.Agreement
import SchemaDiagram.Proofs.Source.Dump
import SchemaDiagram.Proofs.Assembly.Headers
import SchemaDiagram.Proofs.Ddl.Form.Column
import SchemaDiagram.Proofs.Ddl.Form.Header
import SchemaDiagram.Proofs.Ddl.Form.Key
import SchemaDiagram.Proofs.Assembly.Padding
import SchemaDiagram.Proofs.Ddl.Form.ForeignKey
import SchemaDiagram.Proofs.Assembly.Contribution
import SchemaDiagram.Proofs.Assembly.Reordering
import SchemaDiagram.Proofs.Diagram.Presence
import SchemaDiagram.Proofs.Diagram.ArtifactPath
import SchemaDiagram.Proofs.CommandLine.Precedence
import SchemaDiagram.Proofs.Text.Bytes
import SchemaDiagram.Proofs.Files.Folder
import SchemaDiagram.Proofs.Source.Enumeration
import SchemaDiagram.Proofs.Assembly.Annotation
import SchemaDiagram.Proofs.Ddl.ColumnNames
