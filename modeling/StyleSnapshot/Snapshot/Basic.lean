import StyleSnapshot.Snapshot.Template
import StyleSnapshot.Snapshot.Reference

/-! The stylesheet an inline snapshot asks for. -/
namespace StyleSnapshot.Snapshot

/-- Prepares the body of a snapshot for comparison: its outer quotes and every reference
block are dropped, and the rest is trimmed. -/
def sanitize (raw : Text) : Text := Text.trim (stripReferences none (unquote raw))

end StyleSnapshot.Snapshot
