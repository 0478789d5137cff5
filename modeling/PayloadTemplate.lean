import PayloadTemplate.Logging.Setup
import PayloadTemplate.Proofs.Json.Insertions
import PayloadTemplate.Proofs.Json.Leniency
import PayloadTemplate.Proofs.Render.Attribution
import PayloadTemplate.Proofs.Render.Composition
import PayloadTemplate.Proofs.Render.Elements
import PayloadTemplate.Proofs.Render.Embedding
import PayloadTemplate.Proofs.Render.Enumeration
import PayloadTemplate.Proofs.Render.Literal
import PayloadTemplate.Proofs.Render.Loops
import PayloadTemplate.Proofs.Settings.RoundTrip
import PayloadTemplate.Proofs.Template.Scanning
import PayloadTemplate.Proofs.Template.Spacing
import PayloadTemplate.Proofs.Variables.Flat
import PayloadTemplate.Proofs.Variables.Inheritance
import PayloadTemplate.Proofs.Variables.Insertion
import PayloadTemplate.Proofs.Variables.Sections
import PayloadTemplate.Reformat
import PayloadTemplate.Settings.Load
