import ClusterReconciliation.Poll

/-! How patient a reconciliation is. -/
namespace ClusterReconciliation

structure Options where
  /-- How often one library may be submitted; none counts as one. -/
  attemptBudget : Nat := 3
  poll : PollConfig := {}
  deriving DecidableEq, Repr

namespace Options

def withAttemptBudget (o : Options) (n : Nat) : Options := { o with attemptBudget := n }

def withPoll (o : Options) (c : PollConfig) : Options := { o with poll := c }

def withPollTimeout (o : Options) (d : Duration) : Options :=
  { o with poll := { o.poll with timeout := d } }

def withPollInterval (o : Options) (d : Duration) : Options :=
  { o with poll := { o.poll with interval := d, maxInterval := max o.poll.maxInterval d } }

end Options
end ClusterReconciliation
