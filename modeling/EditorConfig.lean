import EditorConfig.Session
import EditorConfig.Proofs.Ordinary
import EditorConfig.Proofs.Served
import EditorConfig.Proofs.Verbatim
import EditorConfig.Proofs.Effects
import EditorConfig.Proofs.Extended
import EditorConfig.Proofs.Snapshots
import EditorConfig.Proofs.Positional
import EditorConfig.Proofs.Rearranged
import EditorConfig.Proofs.Taken
import EditorConfig.Proofs.Described
import EditorConfig.Proofs.Malformed
import EditorConfig.Proofs.Document
import EditorConfig.Proofs.Message
import EditorConfig.Proofs.Foreign
import EditorConfig.Proofs.Sizes
import EditorConfig.Proofs.OneLine
import EditorConfig.Proofs.Reports
